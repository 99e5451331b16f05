import ReleaseArtifacts.Bytes

namespace ReleaseArtifacts

/-!
# Rasters

A picture is kept pixel by pixel, row after row, and the four samples of a pixel stand side by side.

* `Plane` — one value for every place of a rectangle, row by row.
* `Pixel` — a colour with its opacity.
* `Raster` — the pixels of a picture of known size.
* `Picture` — a raster of any size.
-/

/-! ### Planes -/

/-- One value for every place of a rectangle, row by row. -/
abbrev Plane (α : Type) (width height : Nat) := Vector α (width * height)

namespace Plane

variable {α : Type} {width height : Nat}

/-- The plane whose value at column `x` of row `y` is `f x y`. -/
def build (width height : Nat) (f : Nat → Nat → α) : Plane α width height :=
  Vector.ofFn fun i => f (i.val % width) (i.val / width)

/-- A place of row `y` is a place of the rectangle. -/
theorem place_lt {x y : Nat} (hx : x < width) (hy : y < height) :
    y * width + x < width * height := by
  calc y * width + x < y * width + width := by omega
    _ = (y + 1) * width := by rw [Nat.add_mul, Nat.one_mul]
    _ ≤ height * width := Nat.mul_le_mul_right _ hy
    _ = width * height := Nat.mul_comm ..

end Plane

/-! ### Rasters -/

/-- A colour with its opacity. -/
structure Pixel where
  red : UInt8
  green : UInt8
  blue : UInt8
  alpha : UInt8
deriving DecidableEq, Repr

/-- The four bytes of a pixel. -/
def Pixel.bytes (p : Pixel) : Bytes := [p.red, p.green, p.blue, p.alpha]

/-- The pixels of a picture. -/
structure Raster (width height : Nat) where
  pixels : Plane Pixel width height

namespace Raster

variable {width height : Nat}

/-- The raster whose pixel at column `x` of row `y` is `f x y`. -/
def build (width height : Nat) (f : Nat → Nat → Pixel) : Raster width height :=
  ⟨.build width height f⟩

/-- The pixel at a place that is counted row by row. -/
def pixel (r : Raster width height) (i : Nat) (h : i < width * height) : Pixel := r.pixels[i]

/-- The pixels of row `y`, from left to right. -/
def row (r : Raster width height) (y : Fin height) : List Pixel :=
  (List.finRange width).map fun x => r.pixel (y.val * width + x.val) (Plane.place_lt x.isLt y.isLt)

/-- The bytes of all pixels, row by row. -/
def bytes (r : Raster width height) : Bytes :=
  (List.finRange height).flatMap fun y => (r.row y).flatMap Pixel.bytes

end Raster

/-! ### Pictures -/

/-- A raster of any size. -/
structure Picture where
  width : Nat
  height : Nat
  raster : Raster width height

end ReleaseArtifacts
