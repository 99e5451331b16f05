import ReleaseArtifacts.Icons.Format
import ReleaseArtifacts.Proofs.Deflate.Stored
import ReleaseArtifacts.Proofs.Png.Chunks
import ReleaseArtifacts.Proofs.Png.Scanning

namespace ReleaseArtifacts

/-!
# Images are read back

The image of a raster is recognised, and shows that raster.

* `ImageFormat.ofBytes?_signature` — an image is recognised by its signature.
* `Png.decode_image` — a raster that is not empty, and not too large for a reader, is read back
  pixel by pixel.
-/

/-! ### Recognising -/

/-- Bytes begin as their front says. -/
theorem ImageFormat.fits_append (front rest : Bytes) :
    ImageFormat.fits (front.map some) (front ++ rest) := by
  induction front with
  | nil => rfl
  | cons b front ih => simp [fits, ih]

/-- An image is recognised by its signature. -/
theorem ImageFormat.ofBytes?_signature (rest : Bytes) :
    ImageFormat.ofBytes? (Png.signature ++ rest) = some .png := by
  have hfirst : marks.find? (fun m => fits m.1 (Png.signature ++ rest)) =
      some (Png.signature.map some, png) :=
    List.find?_cons_of_pos (fits_append Png.signature rest)
  rw [ofBytes?, hfirst]
  rfl

namespace Png

variable {width height : Nat}

/-! ### Sizes -/

/-- A picture is not empty and takes no more room than a reader has. -/
structure IsReadable (width height : Nat) : Prop where
  width_ne_zero : width ≠ 0
  height_ne_zero : height ≠ 0
  room : width * height * 4 ≤ roomLimit

namespace IsReadable

/-- A square is readable up to a side of 4096 and beyond. -/
theorem of_square {size : Nat} (h : size ≠ 0) (hsize : size ≤ 4096) : IsReadable size size where
  width_ne_zero := h
  height_ne_zero := h
  room := by
    have : size * size ≤ 4096 * 4096 := Nat.mul_le_mul hsize hsize
    simp only [roomLimit]
    omega

variable (h : IsReadable width height)
include h

theorem area_le : width * height ≤ 134217728 := by
  have := h.room
  simp only [roomLimit] at this
  omega

theorem width_le : width ≤ 134217728 :=
  Nat.le_trans (Nat.le_mul_of_pos_right _ (Nat.pos_of_ne_zero h.height_ne_zero)) h.area_le

theorem height_le : height ≤ 134217728 :=
  Nat.le_trans (Nat.le_mul_of_pos_left _ (Nat.pos_of_ne_zero h.width_ne_zero)) h.area_le

/-- The header is read back. -/
theorem ofBytes?_plainHeader :
    Header.ofBytes? (plainHeader width height).bytes = some (plainHeader width height) := by
  have hwidth := h.width_le
  have hheight := h.height_le
  refine Header.ofBytes?_bytes _ h.width_ne_zero h.height_ne_zero ?_ ?_ ?_
  · exact Nat.lt_of_le_of_lt hwidth (by decide)
  · exact Nat.lt_of_le_of_lt hheight (by decide)
  · simp [plainHeader, Colour.depths]

end IsReadable

theorem length_plainRows (r : Raster width height) :
    (plainRows r).length = height * (width * 4 + 1) := by
  simp [plainRows, List.length_flatMap, Pixel.bytes, Raster.length_row]

/-- The compressed rows fit into one chunk. -/
theorem IsReadable.length_stream_lt (h : IsReadable width height) (r : Raster width height) :
    (Deflate.storedStream (plainRows r)).length < 4294967296 := by
  have hstream := Deflate.length_storedStream_le (plainRows r)
  have hrows : (plainRows r).length = width * height * 4 + height := by
    rw [length_plainRows, Nat.mul_add, Nat.mul_one, ← Nat.mul_assoc, Nat.mul_comm height]
  have := h.area_le
  have := h.height_le
  omega

/-! ### Reading back -/

/-- The layout that images are written in: four channels of eight bits. -/
def plainLayout : Layout where
  coloured := true
  translucent := true
  deep := false

theorem name_plainLayout : plainLayout.name = "Rgba8" := by decide

theorem image_eq (r : Raster width height) :
    image r = signature ++ (chunk headerKind (plainHeader width height).bytes ++
      (chunk dataKind (Deflate.storedStream (plainRows r)) ++ (chunk endKind [] ++ []))) := by
  simp only [image, List.append_assoc, List.append_nil]

theorem decode_signature (rest : Bytes) : decode (signature ++ rest) = decodeChunks rest := by
  rw [decode, Bytes.split?_append]
  dsimp only
  rw [if_pos rfl]

/-- **What decoding comes to** when every part of an image is whole. -/
theorem decodeChunks_eq_ok {bytes body : Bytes} {p : Preamble} {length : Nat} {data : List Bytes}
    {output : Array UInt8} {passes : List (Pass × Array (Array Pixel))}
    (hread : Preamble.read bytes = .ok (p, length, body))
    (hroom : p.header.width * p.header.height * (Layout.ofHeader p.header p.inks).pixelLength ≤
      roomLimit)
    (hdata : imageData length body = (data, none))
    (hinflate : Deflate.inflate data.flatten = ⟨output, none⟩)
    (hscan : scan p p.header.passes output.toList = .ok passes) :
    decodeChunks bytes = .ok ⟨Layout.ofHeader p.header p.inks, p.header.width, p.header.height,
      .build p.header.width p.header.height (pixelAt passes)⟩ := by
  simp only [decodeChunks, hread, hdata, hinflate, hscan, if_neg (Nat.not_lt.mpr hroom), bind,
    Except.bind]
  rfl

/-- **A raster is read back pixel by pixel.** -/
theorem decode_image (h : IsReadable width height) (r : Raster width height) :
    decode (image r) = .ok ⟨plainLayout, width, height, r⟩ := by
  have hread := Preamble.read_header_data _ h.ofBytes?_plainHeader (h.length_stream_lt r)
    (chunk endKind [] ++ [])
  have hdata := imageData_chunk (show endKind.length = 4 from rfl) (by decide)
    (show ([] : Bytes).length < 4294967296 by decide) (Deflate.storedStream (plainRows r)) []
  have hinflate : Deflate.inflate [Deflate.storedStream (plainRows r)].flatten =
      ⟨(plainRows r).toArray, none⟩ := by
    rw [List.flatten_singleton, Deflate.inflate_storedStream]
  -- The only pass covers every place, so the picture is the raster again.
  have hbuild : Raster.build width height (pixelAt [(wholePass, pixelRows r)]) = r :=
    r.build_eq fun x y hx hy => pixelAt_pixelRows r hx hy
  rw [image_eq, decode_signature,
    decodeChunks_eq_ok hread h.room hdata hinflate (scan_plainRows r h.width_ne_zero)]
  dsimp only [plainPreamble, plainHeader]
  rw [hbuild]
  rfl

end Png

end ReleaseArtifacts
