import ReleaseArtifacts.Raster.Basic
import ReleaseArtifacts.Raster.Lanczos

namespace ReleaseArtifacts

/-!
# Resampling

A picture gets a new size in two passes over its pixels: first every column is resampled, then every
row.  The four samples of a pixel are weighed together.

* `Light` — a pixel between the two passes.
* `Light.addAll`, `Light.weigh` — the weighted sum of several pixels, added in their order.
* `Raster.resampleColumns`, `Plane.resampleRows` — the two passes.
* `Raster.resample` — a picture in a new size; in its own size it stays as it is.
-/

/-! ### Pixels between the passes -/

/-- A pixel between the two passes, with a number of 32 bits for every channel. -/
structure Light where
  red : Float32
  green : Float32
  blue : Float32
  alpha : Float32

/-- The nearest number from 0 to 255; of two equally near, the greater one. -/
def nearestByte (x : Float32) : UInt8 :=
  (if x < 0 then 0 else if 255 < x then 255 else x).round.toUInt8

namespace Light

/-- Nothing at all. -/
def dark : Light := ⟨0, 0, 0, 0⟩

/-- A pixel of a picture. -/
def ofPixel (p : Pixel) : Light :=
  ⟨p.red.toFloat32, p.green.toFloat32, p.blue.toFloat32, p.alpha.toFloat32⟩

/-- The nearest pixel that a picture can have. -/
def toPixel (l : Light) : Pixel :=
  ⟨nearestByte l.red, nearestByte l.green, nearestByte l.blue, nearestByte l.alpha⟩

/-- Adds a further pixel to a sum, as much as it counts. -/
def add (sum l : Light) (weight : Float32) : Light :=
  ⟨sum.red + l.red * weight, sum.green + l.green * weight, sum.blue + l.blue * weight,
    sum.alpha + l.alpha * weight⟩

/-- Adds several pixels to a sum, one after the other, as much as each of them counts; `light` gives
    them from place `n` on. -/
def addAll (light : Nat → Light) (sum : Light) (n : Nat) : (weights : List Float32) → Light
  | [] => sum
  | weight :: weights => addAll light (sum.add (light n) weight) (n + 1) weights

/-- The weighted sum of pixels, of which `light` gives those from `first` on. -/
def weigh (light : Nat → Light) (first : Nat) (weights : List Float32) : Light :=
  addAll light dark first weights

end Light

/-! ### The two passes -/

section

variable {width height : Nat}

/-- Resamples every column. -/
def Raster.resampleColumns (r : Raster width height) (newHeight : Nat) :
    Plane Light width newHeight :=
  let taps := Lanczos.allTaps height newHeight
  .build width newHeight fun x y =>
    let t := taps[y]?.getD Lanczos.noTaps
    Light.weigh (fun n => (r.pixels.toArray[n * width + x]?.map Light.ofPixel).getD .dark)
      t.first t.weights

/-- Resamples every row. -/
def Plane.resampleRows (p : Plane Light width height) (newWidth : Nat) : Raster newWidth height :=
  let taps := Lanczos.allTaps width newWidth
  .build newWidth height fun x y =>
    let t := taps[x]?.getD Lanczos.noTaps
    (Light.weigh (fun n => p.toArray[y * width + n]?.getD .dark) t.first t.weights).toPixel

/-- A picture in a new size; in its own size it stays as it is. -/
def Raster.resample (r : Raster width height) (newWidth newHeight : Nat) :
    Raster newWidth newHeight :=
  if h : width = newWidth ∧ height = newHeight then h.1 ▸ h.2 ▸ r
  else (r.resampleColumns newHeight).resampleRows newWidth

end

end ReleaseArtifacts
