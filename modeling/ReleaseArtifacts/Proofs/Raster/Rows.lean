import Mathlib.Data.List.Basic
import ReleaseArtifacts.Raster.Basic

namespace ReleaseArtifacts

/-!
# Rows of a raster

A raster is built again from its rows, and it is known from its bytes.

* `Raster.getElem?_row` — the pixels of a row.
* `Raster.build_eq` — a raster is what is built from its own pixels.
* `Raster.bytes_injective` — two rasters of one size with the same bytes are the same.
-/

variable {width height : Nat}

/-- A plane is what is built from its own values. -/
theorem Plane.build_eq {α : Type} (p : Plane α width height) {f : Nat → Nat → α}
    (h : ∀ i (hi : i < width * height), f (i % width) (i / width) = p[i]) :
    Plane.build width height f = p := by
  apply Vector.ext
  intro i hi
  rw [Plane.build, Vector.getElem_ofFn]
  exact h i hi

theorem Pixel.length_bytes (p : Pixel) : p.bytes.length = 4 := rfl

theorem Pixel.bytes_injective : Function.Injective Pixel.bytes := by
  rintro ⟨red, green, blue, alpha⟩ ⟨red', green', blue', alpha'⟩ h
  simpa [Pixel.bytes] using h

namespace Raster

theorem length_row (r : Raster width height) (y : Fin height) : (r.row y).length = width := by
  rw [row, List.length_map, List.length_finRange]

/-- The pixels of a row. -/
theorem getElem?_row (r : Raster width height) {x y : Nat} (hx : x < width) (hy : y < height) :
    (r.row ⟨y, hy⟩)[x]? = some (r.pixel (y * width + x) (Plane.place_lt hx hy)) := by
  simp [row, hx]

/-- **A raster is what is built from its own pixels.** -/
theorem build_eq (r : Raster width height) {f : Nat → Nat → Pixel}
    (h : ∀ x y (hx : x < width) (hy : y < height),
      f x y = r.pixel (y * width + x) (Plane.place_lt hx hy)) :
    Raster.build width height f = r := by
  -- A place that is counted row by row is a column of a row.
  have hpixel (i : Nat) (hi : i < width * height) : f (i % width) (i / width) = r.pixel i hi := by
    have hwidth : 0 < width := Nat.pos_of_mul_pos_right (Nat.zero_lt_of_lt hi)
    rw [h _ _ (Nat.mod_lt i hwidth) (Nat.div_lt_of_lt_mul hi)]
    simp only [Nat.div_add_mod']
  rw [build, Plane.build_eq r.pixels hpixel]

/-! ### Bytes -/

/-- Rasters with the same pixels in all rows are the same. -/
theorem ext_pixel {r r' : Raster width height}
    (h : ∀ x y (hx : x < width) (hy : y < height),
      r.pixel (y * width + x) (Plane.place_lt hx hy) =
        r'.pixel (y * width + x) (Plane.place_lt hx hy)) : r = r' := by
  have hpixel (i : Nat) (hi : i < width * height) : r.pixel i hi = r'.pixel i hi := by
    have hwidth : 0 < width := Nat.pos_of_mul_pos_right (Nat.zero_lt_of_lt hi)
    have hplace := h _ _ (Nat.mod_lt i hwidth) (Nat.div_lt_of_lt_mul hi)
    simpa only [Nat.div_add_mod'] using hplace
  exact congrArg Raster.mk (Vector.ext hpixel)

/-- Blocks of one length, one after the other, are told apart. -/
theorem eq_of_flatMap_eq {α β : Type} {n : Nat} {f g : α → List β} {l : List α}
    (hf : ∀ a, (f a).length = n) (hg : ∀ a, (g a).length = n) (h : l.flatMap f = l.flatMap g) :
    ∀ a ∈ l, f a = g a := by
  induction l with
  | nil => exact fun a ha => absurd ha List.not_mem_nil
  | cons a l ih =>
    rw [List.flatMap_cons, List.flatMap_cons] at h
    obtain ⟨hfirst, hrest⟩ := List.append_inj h ((hf a).trans (hg a).symm)
    exact List.forall_mem_cons.mpr ⟨hfirst, ih hrest⟩

/-- **A raster is known from its bytes.** -/
theorem bytes_injective : Function.Injective (bytes : Raster width height → Bytes) := by
  intro r r' h
  have hlength (s : Raster width height) (y : Fin height) :
      ((s.row y).flatMap Pixel.bytes).length = width * 4 := by
    simp [List.length_flatMap, Pixel.bytes, length_row]
  have hrows := eq_of_flatMap_eq (hlength r) (hlength r') h
  apply ext_pixel
  intro x y hx hy
  -- The bytes of a row are those of its pixels, four for each.
  have hrow := hrows ⟨y, hy⟩ (List.mem_finRange _)
  simp only [row, List.flatMap_map] at hrow
  have hpixels := eq_of_flatMap_eq (fun _ => Pixel.length_bytes _)
    (fun _ => Pixel.length_bytes _) hrow
  exact Pixel.bytes_injective (hpixels ⟨x, hx⟩ (List.mem_finRange _))

end Raster

/-- A picture is known from its size and its bytes. -/
theorem Picture.eq_of_bytes {m m' : Picture} (hwidth : m.width = m'.width)
    (hheight : m.height = m'.height) (hbytes : m.raster.bytes = m'.raster.bytes) : m = m' := by
  obtain ⟨width, height, r⟩ := m
  obtain ⟨width', height', r'⟩ := m'
  obtain rfl : width = width' := hwidth
  obtain rfl : height = height' := hheight
  obtain rfl : r = r' := Raster.bytes_injective hbytes
  rfl

end ReleaseArtifacts
