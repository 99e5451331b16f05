import ReleaseArtifacts.Proofs.Raster.Rows
import ReleaseArtifacts.Raster.Resample

namespace ReleaseArtifacts

/-!
# Channels of a raster

The samples of all channels stand side by side in the pixels of a raster, and among its bytes.  Both
passes of resampling work on whole pixels.  They commute with taking the samples of one channel.

* `Channel`, `Pixel.sample`, `Light.sample`, `Raster.plane` — the four channels.
* `Raster.getElem?_bytes` — where the samples of a channel are found among the bytes.
* `weighSamples`, `Plane.columnsInSize`, `Plane.rowsInSize` — how the samples of one channel would be
  resampled if there were no other channels.
* `Light.sample_weigh` — a weighted sum of pixels, seen in one channel.
* `Raster.map_sample_resampleColumns`, `Raster.plane_resampleRows` — the two passes, seen in one
  channel.
* `Raster.plane_resample` — a channel in a new size comes from this channel alone.
* `Picture.AgreesOn` — two pictures have the same samples of a channel.
-/

/-! ### Channels -/

/-- The channels of a picture. -/
inductive Channel
  | red
  | green
  | blue
  | alpha
deriving DecidableEq, Repr

/-- Which byte of a pixel is the sample of a channel. -/
def Channel.index : Channel → Nat
  | red => 0
  | green => 1
  | blue => 2
  | alpha => 3

theorem Channel.index_lt (channel : Channel) : channel.index < 4 := by
  cases channel <;> decide

/-- The sample of a channel in a pixel. -/
def Pixel.sample (p : Pixel) : Channel → UInt8
  | .red => p.red
  | .green => p.green
  | .blue => p.blue
  | .alpha => p.alpha

/-- The sample of a channel in a pixel between the two passes. -/
def Light.sample (l : Light) : Channel → Float32
  | .red => l.red
  | .green => l.green
  | .blue => l.blue
  | .alpha => l.alpha

theorem Pixel.getElem?_bytes (p : Pixel) (channel : Channel) :
    p.bytes[channel.index]? = some (p.sample channel) := by
  cases channel <;> rfl

/-- Changing all values of a plane that is built. -/
theorem Plane.map_build {α β : Type} {width height : Nat} (g : α → β) (f : Nat → Nat → α) :
    (build width height f).map g = build width height fun x y => g (f x y) := by
  apply Vector.ext
  intro i hi
  rw [Vector.getElem_map, build, build, Vector.getElem_ofFn, Vector.getElem_ofFn]

/-! ### Planes and bytes -/

/-- Blocks of one length, one after the other: the `k`-th item of the `i`-th block. -/
theorem getElem?_flatMap_blocks {α β : Type} {n k : Nat} {f : α → List β}
    (hf : ∀ a, (f a).length = n) (hk : k < n) (l : List α) (i : Nat) :
    (l.flatMap f)[n * i + k]? = l[i]?.bind fun a => (f a)[k]? := by
  induction l generalizing i with
  | nil => rfl
  | cons a l ih =>
    rw [List.flatMap_cons]
    cases i with
    | zero =>
      rw [Nat.mul_zero, Nat.zero_add, List.getElem?_append_left (by rw [hf]; exact hk)]
      rfl
    | succ i =>
      have hskip : n * (i + 1) + k = (f a).length + (n * i + k) := by rw [hf, Nat.mul_succ]; omega
      rw [hskip, List.getElem?_append_right (Nat.le_add_right _ _), Nat.add_sub_cancel_left, ih,
        List.getElem?_cons_succ]

namespace Raster

variable {width height newWidth newHeight : Nat}

/-- The samples of a channel. -/
def plane (r : Raster width height) (channel : Channel) : Plane UInt8 width height :=
  r.pixels.map (·.sample channel)

theorem plane_build (f : Nat → Nat → Pixel) (channel : Channel) :
    (Raster.build width height f).plane channel =
      .build width height fun x y => (f x y).sample channel := Plane.map_build _ f

theorem getElem_plane (r : Raster width height) (channel : Channel) {i : Nat}
    (h : i < width * height) : (r.plane channel)[i] = (r.pixel i h).sample channel :=
  Vector.getElem_map ..

/-- **Where the samples of a channel are:** every fourth byte is one. -/
theorem getElem?_bytes (r : Raster width height) (channel : Channel) {i : Nat}
    (h : i < width * height) :
    r.bytes[4 * i + channel.index]? = some (r.plane channel)[i] := by
  have hwidth : 0 < width := Nat.pos_of_mul_pos_right (Nat.zero_lt_of_lt h)
  have hx : i % width < width := Nat.mod_lt i hwidth
  have hy : i / width < height := Nat.div_lt_of_lt_mul h
  have hrows (y : Fin height) : ((r.row y).flatMap Pixel.bytes).length = 4 * width := by
    simp [List.length_flatMap, Pixel.bytes, length_row, Nat.mul_comm]
  -- The byte is counted in the bytes of its row, and there in those of its pixel.
  have hplace : 4 * i + channel.index =
      4 * width * (i / width) + (4 * (i % width) + channel.index) := by
    conv_lhs => rw [← Nat.div_add_mod i width]
    rw [Nat.mul_add, Nat.mul_assoc, Nat.add_assoc]
  have hcolumn : 4 * (i % width) + channel.index < 4 * width := by
    have := channel.index_lt
    omega
  have hrow : (List.finRange height)[i / width]? = some ⟨i / width, hy⟩ := by simp [hy]
  rw [bytes, hplace, getElem?_flatMap_blocks hrows hcolumn, hrow, Option.bind_some,
    getElem?_flatMap_blocks Pixel.length_bytes channel.index_lt, getElem?_row r hx hy,
    Option.bind_some, Pixel.getElem?_bytes, getElem_plane]
  simp only [Nat.div_add_mod']

end Raster

/-! ### One channel alone -/

/-- Adds several samples to a sum, one after the other, as much as each of them counts. -/
def addSamples (sample : Nat → Float32) (sum : Float32) (n : Nat) :
    (weights : List Float32) → Float32
  | [] => sum
  | weight :: weights => addSamples sample (sum + sample n * weight) (n + 1) weights

/-- The weighted sum of samples, of which `sample` gives those from `first` on. -/
def weighSamples (sample : Nat → Float32) (first : Nat) (weights : List Float32) : Float32 :=
  addSamples sample 0 first weights

namespace Plane

variable {width height : Nat}

/-- One channel with its columns resampled. -/
def columnsInSize (p : Plane UInt8 width height) (newHeight : Nat) :
    Plane Float32 width newHeight :=
  build width newHeight fun x y =>
    let t := (Lanczos.allTaps height newHeight)[y]?.getD Lanczos.noTaps
    weighSamples (fun n => (p.toArray[n * width + x]?.map UInt8.toFloat32).getD 0)
      t.first t.weights

/-- One channel with its rows resampled. -/
def rowsInSize (p : Plane Float32 width height) (newWidth : Nat) : Plane UInt8 newWidth height :=
  build newWidth height fun x y =>
    let t := (Lanczos.allTaps width newWidth)[x]?.getD Lanczos.noTaps
    nearestByte (weighSamples (fun n => p.toArray[y * width + n]?.getD 0) t.first t.weights)

/-- A channel in a new size; in its own size it stays as it is. -/
def inSize (p : Plane UInt8 width height) (newWidth newHeight : Nat) :
    Plane UInt8 newWidth newHeight :=
  if h : width = newWidth ∧ height = newHeight then p.cast (congrArg₂ (· * ·) h.1 h.2)
  else (p.columnsInSize newHeight).rowsInSize newWidth

end Plane

/-! ### Both passes in one channel -/

section Passes

variable {width height : Nat} (channel : Channel)

theorem Light.sample_dark : dark.sample channel = 0 := by cases channel <;> rfl

theorem Light.sample_ofPixel (p : Pixel) :
    (ofPixel p).sample channel = (p.sample channel).toFloat32 := by cases channel <;> rfl

theorem Light.sample_toPixel (l : Light) :
    l.toPixel.sample channel = nearestByte (l.sample channel) := by cases channel <;> rfl

theorem Light.sample_add (sum l : Light) (weight : Float32) :
    (sum.add l weight).sample channel = sum.sample channel + l.sample channel * weight := by
  cases channel <;> rfl

/-- Adding pixels adds the samples of each channel: in all of them the weights and the places are the
    same. -/
theorem Light.sample_addAll (light : Nat → Light) (sum : Light) (n : Nat)
    (weights : List Float32) :
    (addAll light sum n weights).sample channel =
      addSamples (fun n => (light n).sample channel) (sum.sample channel) n weights := by
  induction weights generalizing sum n with
  | nil => rfl
  | cons weight weights ih => rw [addAll, ih, sample_add, addSamples]

/-- **A weighted sum of pixels, seen in one channel,** is the weighted sum of the samples. -/
theorem Light.sample_weigh (light : Nat → Light) (first : Nat) (weights : List Float32) :
    (weigh light first weights).sample channel =
      weighSamples (fun n => (light n).sample channel) first weights := by
  rw [weigh, sample_addAll, sample_dark, weighSamples]

/-- **The first pass, seen in one channel.** -/
theorem Raster.map_sample_resampleColumns (r : Raster width height) (newHeight : Nat) :
    (r.resampleColumns newHeight).map (·.sample channel) =
      (r.plane channel).columnsInSize newHeight := by
  rw [resampleColumns, Plane.columnsInSize, Plane.map_build]
  congr 1
  funext x y
  rw [Light.sample_weigh]
  congr 1
  funext n
  -- What is read beyond the raster is dark in all channels.
  rw [plane, Vector.toArray_map, Array.getElem?_map]
  cases r.pixels.toArray[n * width + x]? with
  | none => exact Light.sample_dark channel
  | some p => exact Light.sample_ofPixel channel p

/-- **The second pass, seen in one channel.** -/
theorem Raster.plane_resampleRows (p : Plane Light width height) (newWidth : Nat) :
    (p.resampleRows newWidth).plane channel =
      Plane.rowsInSize (p.map (·.sample channel)) newWidth := by
  rw [Plane.resampleRows, Plane.rowsInSize, plane_build]
  congr 1
  funext x y
  rw [Light.sample_toPixel, Light.sample_weigh]
  congr 2
  funext n
  rw [Vector.toArray_map, Array.getElem?_map]
  cases p.toArray[y * width + n]? with
  | none => exact Light.sample_dark channel
  | some l => rfl

end Passes

/-- **A channel in a new size** comes from this channel alone, and in the same way from each. -/
theorem Raster.plane_resample {width height : Nat} (r : Raster width height)
    (newWidth newHeight : Nat) (channel : Channel) :
    (r.resample newWidth newHeight).plane channel =
      (r.plane channel).inSize newWidth newHeight := by
  by_cases h : width = newWidth ∧ height = newHeight
  · obtain ⟨rfl, rfl⟩ := h
    rw [resample, dif_pos ⟨rfl, rfl⟩, Plane.inSize, dif_pos ⟨rfl, rfl⟩, Vector.cast_rfl]
  · -- The projection to the channel is moved through the second pass, and then through the first.
    rw [resample, dif_neg h, Plane.inSize, dif_neg h, plane_resampleRows,
      map_sample_resampleColumns]

/-! ### Agreeing -/

namespace Picture

/-- Two pictures have one size and, at every pixel, the same sample of a channel. -/
structure AgreesOn (channel : Channel) (m m' : Picture) : Prop where
  width : m.width = m'.width
  height : m.height = m'.height
  sample : ∀ i < m.width * m.height, ∃ v, m.raster.bytes[4 * i + channel.index]? = some v ∧
    m'.raster.bytes[4 * i + channel.index]? = some v

/-- Pictures of one size agree on a channel if it is the same plane in both. -/
theorem agreesOn_iff {width height : Nat} {channel : Channel} {r r' : Raster width height} :
    AgreesOn channel ⟨width, height, r⟩ ⟨width, height, r'⟩ ↔
      r.plane channel = r'.plane channel := by
  constructor
  · intro h
    refine Vector.ext fun i hi => ?_
    obtain ⟨v, hv, hv'⟩ := h.sample i hi
    rw [Raster.getElem?_bytes r channel hi] at hv
    rw [Raster.getElem?_bytes r' channel hi] at hv'
    exact Option.some.inj (hv.trans hv'.symm)
  · intro h
    refine ⟨rfl, rfl, fun i hi => ⟨(r.plane channel)[i], r.getElem?_bytes channel hi, ?_⟩⟩
    rw [r'.getElem?_bytes channel hi]
    simp only [h]

/-- Pictures that agree on a channel do so in every other size. -/
theorem AgreesOn.resample {channel : Channel} {m m' : Picture} (h : AgreesOn channel m m')
    (width height : Nat) :
    AgreesOn channel ⟨width, height, m.raster.resample width height⟩
      ⟨width, height, m'.raster.resample width height⟩ := by
  obtain ⟨w, t, r⟩ := m
  obtain ⟨w', t', r'⟩ := m'
  obtain rfl : w = w' := h.width
  obtain rfl : t = t' := h.height
  rw [agreesOn_iff, Raster.plane_resample, Raster.plane_resample, agreesOn_iff.mp h]

end Picture

end ReleaseArtifacts
