import Mathlib.Data.List.Basic
import ReleaseArtifacts.Png.Decode
import ReleaseArtifacts.Png.Encode
import ReleaseArtifacts.Proofs.Raster.Rows

namespace ReleaseArtifacts.Png

/-!
# Rows are read back

Rows that are written plainly give back the pixels they were written from.

* `rows_plain` — rows in which nothing is predicted.
* `groups_flatten` — groups of one length.
* `rowPixels?_row` — the pixels of a row of four channels of eight bits.
* `scan_plainRows` — the pixels of all rows.
-/

/-! ### Rows of bytes -/

/-- **Rows in which nothing is predicted** are as they were written. -/
theorem rows_plain (step length : Nat) {lines : List Bytes}
    (h : ∀ line ∈ lines, line.length = length) (above rest : Bytes) :
    rows step length lines.length above (lines.flatMap (0 :: ·) ++ rest) = .ok (lines, rest) := by
  induction lines generalizing above with
  | nil => rfl
  | cons line lines ih =>
    have hline : (0 :: line).length = length + 1 := congrArg (· + 1) (h line (by simp))
    have hsplit := Bytes.split?_append (0 :: line) (lines.flatMap (0 :: ·) ++ rest)
    rw [hline] at hsplit
    have hfilter : Filter.ofByte? 0 = some .plain := rfl
    -- The row above changes from row to row, but no row depends on it.
    have hrest := ih (fun other hother => h other (by simp [hother])) line
    rw [List.length_cons, rows, List.flatMap_cons, List.append_assoc, hsplit]
    simp only [hfilter, Filter.restore, hrest, bind, Except.bind]
    rfl

/-- Groups of one length are told apart. -/
theorem groups_flatten {α : Type} {n : Nat} (hn : n ≠ 0) {parts : List (List α)}
    (h : ∀ part ∈ parts, part.length = n) : groups n parts.flatten = parts := by
  induction parts with
  | nil => rw [groups, dif_pos (.inr (by simpa using Nat.pos_of_ne_zero hn))]
  | cons part parts ih =>
    have hpart : part.length = n := h part (by simp)
    have hrest := ih fun other hother => h other (by simp [hother])
    have hfront : (part ++ parts.flatten).take n = part := hpart ▸ List.take_left
    have hback : (part ++ parts.flatten).drop n = parts.flatten := hpart ▸ List.drop_left
    rw [List.flatten_cons, groups, hfront, hback, hrest, hpart, dif_neg (by simp [hn])]

/-! ### Pixels -/

/-- Steps that all give something. -/
theorem mapM_eq_some {α β : Type} {l : List α} {f : α → Option β} {g : α → β}
    (h : ∀ a ∈ l, f a = some (g a)) : l.mapM f = some (l.map g) := by
  induction l with
  | nil => rfl
  | cons a l ih =>
    rw [List.mapM_cons, h a (by simp), ih fun b hb => h b (by simp [hb])]
    rfl

/-- A pixel of four channels of eight bits. -/
theorem pixel?_bytes (inks : Inks) {h : Header} (hcolour : h.colour = .rgba) (hdepth : h.depth = 8)
    (p : Pixel) : inks.pixel? h (p.bytes.map UInt8.toNat) = some p := by
  have hlevel (b : UInt8) : Inks.level h.depth b.toNat = b := by
    simp [Inks.level, hdepth]
  simp [Inks.pixel?, hcolour, Pixel.bytes, hlevel]

/-- **The pixels of a row** of four channels of eight bits. -/
theorem rowPixels?_row {p : Preamble} (hcolour : p.header.colour = .rgba)
    (hdepth : p.header.depth = 8) (pixels : List Pixel) :
    rowPixels? p pixels.length (pixels.flatMap Pixel.bytes) = some pixels.toArray := by
  -- The samples are the bytes, and the groups of them are the pixels.
  have hsamples : samples p.header.depth (pixels.flatMap Pixel.bytes) =
      (pixels.map fun q => q.bytes.map UInt8.toNat).flatten := by
    rw [hdepth, samples, if_pos rfl, List.map_flatMap, List.flatMap_def]
  have hgroups : groups p.header.colour.channels
      (pixels.map fun q => q.bytes.map UInt8.toNat).flatten =
        pixels.map fun q => q.bytes.map UInt8.toNat := by
    refine groups_flatten (by rw [hcolour]; decide) fun part hpart => ?_
    obtain ⟨q, -, rfl⟩ := List.mem_map.mp hpart
    rw [hcolour]
    rfl
  have hmap : (pixels.map fun q => q.bytes.map UInt8.toNat).mapM (p.inks.pixel? p.header) =
      some pixels := by
    rw [List.mapM_map]
    exact (mapM_eq_some fun q _ => pixel?_bytes p.inks hcolour hdepth q).trans
      (congrArg some (List.map_id' pixels))
  rw [rowPixels?, hsamples, hgroups, List.take_of_length_le (by simp), hmap]
  rfl

/-! ### The whole picture -/

variable {width height : Nat}

theorem width_wholePass (h : Header) : wholePass.width h = h.width := by
  simp [Pass.width, Pass.count, wholePass]

theorem height_wholePass {h : Header} (hwidth : h.width ≠ 0) : wholePass.height h = h.height := by
  rw [Pass.height, width_wholePass, if_neg hwidth]
  simp [Pass.count, wholePass]

theorem covers_wholePass (x y : Nat) : wholePass.covers x y := by
  simp [Pass.covers, wholePass, Nat.mod_one]

/-- What is known of a picture that is written plainly. -/
def plainPreamble (width height : Nat) : Preamble := ⟨plainHeader width height, none, none⟩

/-- The bytes of each row. -/
def plainLines (r : Raster width height) : List Bytes :=
  (List.finRange height).map fun y => (r.row y).flatMap Pixel.bytes

theorem plainRows_eq (r : Raster width height) : plainRows r = (plainLines r).flatMap (0 :: ·) := by
  rw [plainRows, plainLines, List.flatMap_map]

theorem length_plainLines (r : Raster width height) : (plainLines r).length = height := by
  rw [plainLines, List.length_map, List.length_finRange]

theorem length_of_mem_plainLines {r : Raster width height} {line : Bytes}
    (h : line ∈ plainLines r) : line.length = 4 * width := by
  obtain ⟨y, -, rfl⟩ := List.mem_map.mp h
  simp [List.length_flatMap, Pixel.bytes, Raster.length_row, Nat.mul_comm]

/-- The rows of pixels that are read back. -/
def pixelRows (r : Raster width height) : Array (Array Pixel) :=
  ((List.finRange height).map fun y => (r.row y).toArray).toArray

/-- **The pixels of all rows.** -/
theorem passPixels_plainRows (r : Raster width height) (hwidth : width ≠ 0) :
    passPixels (plainPreamble width height) wholePass (plainRows r) = .ok (pixelRows r, []) := by
  have hlength : (plainHeader width height).rowLength width = 4 * width := by
    simp only [Header.rowLength, plainHeader, Colour.channels]
    omega
  have hrows := rows_plain (plainHeader width height).pixelLength (4 * width)
    (fun line (hline : line ∈ plainLines r) => length_of_mem_plainLines hline)
    (List.replicate (4 * width) 0) []
  rw [List.append_nil, ← plainRows_eq, length_plainLines] at hrows
  have hpixels : (plainLines r).mapM (rowPixels? (plainPreamble width height) width) =
      some ((List.finRange height).map fun y => (r.row y).toArray) := by
    rw [plainLines, List.mapM_map]
    refine mapM_eq_some fun y _ => ?_
    have := rowPixels?_row (p := plainPreamble width height) rfl rfl (r.row y)
    rwa [Raster.length_row] at this
  have hcolumns : wholePass.width (plainHeader width height) = width := width_wholePass _
  have hlines : wholePass.height (plainHeader width height) = height := height_wholePass hwidth
  simp only [passPixels, plainPreamble, hcolumns, hlines, hlength, hrows, bind, Except.bind]
  rw [plainPreamble] at hpixels
  rw [hpixels]
  rfl

theorem scan_plainRows (r : Raster width height) (hwidth : width ≠ 0) :
    scan (plainPreamble width height) (plainHeader width height).passes (plainRows r) =
      .ok [(wholePass, pixelRows r)] := by
  have hpasses : (plainHeader width height).passes = [wholePass] := rfl
  rw [hpasses, scan, passPixels_plainRows r hwidth]
  rfl

/-- The pixel at a place. -/
theorem pixelAt_pixelRows (r : Raster width height) {x y : Nat} (hx : x < width) (hy : y < height) :
    pixelAt [(wholePass, pixelRows r)] x y = r.pixel (y * width + x) (Plane.place_lt hx hy) := by
  have hfind : [(wholePass, pixelRows r)].find? (fun q => q.1.covers x y) =
      some (wholePass, pixelRows r) := List.find?_cons_of_pos (covers_wholePass x y)
  have hrow : (pixelRows r)[y]? = some (r.row ⟨y, hy⟩).toArray := by
    simp [pixelRows, hy]
  rw [pixelAt, hfind]
  simp [wholePass, hrow, Raster.getElem?_row r hx hy]

end ReleaseArtifacts.Png
