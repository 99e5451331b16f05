import Mathlib.Data.List.Basic
import ReleaseArtifacts.Png.Chunk

namespace ReleaseArtifacts.Png

/-!
# Chunks are read back

What a writer puts into chunks, a reader finds there, whatever comes after them.

* `opened?_chunk`, `dataOf_append`, `sealed_word` — the parts of a chunk.
* `Header.ofBytes?_bytes` — a header that names an image of a known form.
* `Preamble.read_header_data` — a header chunk, and image data right after it.
* `imageData_chunk` — a single chunk of image data.
-/

variable {kind data : Bytes}

/-! ### Parts of a chunk -/

theorem split?_word (n : Nat) (rest : Bytes) :
    Bytes.split? 4 (Bytes.word n ++ rest) = some (Bytes.word n, rest) :=
  Bytes.split?_append (Bytes.word n) rest

/-- The length and the kind of a chunk. -/
theorem opened?_chunk (hkind : kind.length = 4) (hdata : data.length < 4294967296)
    (rest : Bytes) :
    opened? (chunk kind data ++ rest) =
      some (data.length, kind, data ++ (Bytes.word (chunkSum kind data) ++ rest)) := by
  have hsplit (tail : Bytes) : Bytes.split? 4 (kind ++ tail) = some (kind, tail) :=
    hkind ▸ Bytes.split?_append kind tail
  simp only [opened?, chunk, List.append_assoc, split?_word, hsplit, Bytes.number_word hdata,
    Option.bind_eq_bind, Option.bind_some, Option.pure_def]

/-- The data of a chunk. -/
theorem dataOf_append (data rest : Bytes) :
    dataOf data.length (data ++ rest) = .ok (data, rest) := by
  rw [dataOf, Bytes.split?_append]

theorem chunkSum_lt (kind data : Bytes) : chunkSum kind data < 4294967296 := UInt32.toNat_lt _

/-- The checksum of a chunk. -/
theorem sealed_word (kind data rest : Bytes) :
    sealed kind data (Bytes.word (chunkSum kind data) ++ rest) = .ok rest := by
  simp [sealed, split?_word, Bytes.number_word (chunkSum_lt kind data)]

/-! ### Headers -/

/-- **A header is read back** if it names an image that is not empty, of a size and a form that can
    be written. -/
theorem Header.ofBytes?_bytes (h : Header) (hwidth : h.width ≠ 0) (hheight : h.height ≠ 0)
    (hwide : h.width < 4294967296) (hhigh : h.height < 4294967296)
    (hdepth : h.depth ∈ h.colour.depths) : Header.ofBytes? h.bytes = some h := by
  -- The colour and the depth are written in one byte each, and both fit.
  have hcolour : Colour.ofCode? (UInt8.ofNat h.colour.code).toNat = some h.colour := by
    cases h.colour <;> rfl
  have hdepth' : (UInt8.ofNat h.depth).toNat = h.depth := by
    have : h.depth ≤ 16 := by
      revert hdepth
      cases h.colour <;> simp [Colour.depths] <;> omega
    rw [UInt8.toNat_ofNat', Nat.mod_eq_of_lt (by omega)]
  simp only [Header.ofBytes?, Header.bytes, split?_word, List.append_assoc, Option.bind_eq_bind,
    Option.bind_some, hcolour, hdepth', Bytes.number_word hwide, Bytes.number_word hhigh]
  rcases h with ⟨width, height, depth, colour, interlaced⟩
  cases interlaced <;> simp_all

/-! ### Before the image data -/

namespace Preamble

/-- A header comes first. -/
theorem first_header (h : Header) (hheader : Header.ofBytes? h.bytes = some h) (rest : Bytes) :
    first (chunk headerKind h.bytes ++ rest) = .ok (⟨h, none, none⟩, rest) := by
  have hlength : h.bytes.length < 4294967296 := by simp [Header.bytes, Bytes.word]
  have hopened := opened?_chunk (show headerKind.length = 4 from rfl) hlength rest
  simp only [first, hopened, dataOf_append, hheader, sealed_word, bind, Except.bind]
  rfl

/-- Image data that comes next is left to be read. -/
theorem readOn_data (p : Preamble) (hdata : data.length < 4294967296) (rest : Bytes) :
    p.readOn (chunk dataKind data ++ rest) =
      .ok (p, data.length, data ++ (Bytes.word (chunkSum dataKind data) ++ rest)) := by
  have hopened := opened?_chunk (show dataKind.length = 4 from rfl) hdata rest
  rw [readOn]
  split
  · rename_i hnone
    cases hopened.symm.trans hnone
  · rename_i hsome
    cases hopened.symm.trans hsome
    rw [if_pos rfl]

/-- **A header, and image data right after it.**  Nothing else is known then. -/
theorem read_header_data (h : Header) (hheader : Header.ofBytes? h.bytes = some h)
    (hdata : data.length < 4294967296) (rest : Bytes) :
    read (chunk headerKind h.bytes ++ (chunk dataKind data ++ rest)) =
      .ok (⟨h, none, none⟩, data.length,
        data ++ (Bytes.word (chunkSum dataKind data) ++ rest)) := by
  rw [read, first_header h hheader]
  exact readOn_data ⟨h, none, none⟩ hdata rest

end Preamble

/-! ### Image data -/

/-- **A single chunk of image data** before a chunk of another kind. -/
theorem imageData_chunk (hkind : kind.length = 4) (hother : kind ≠ dataKind)
    (hdata : data.length < 4294967296) (front rest : Bytes) :
    imageData front.length (front ++ (Bytes.word (chunkSum dataKind front) ++
      (chunk kind data ++ rest))) = ([front], none) := by
  have hopened := opened?_chunk hkind hdata rest
  have hsplit := Bytes.split?_append front
    (Bytes.word (chunkSum dataKind front) ++ (chunk kind data ++ rest))
  have hword := split?_word (chunkSum dataKind front) (chunk kind data ++ rest)
  -- Every part is there, so that only the case in which it is found is left at each split.
  rw [imageData]
  split
  · rename_i hnone
    cases hsplit.symm.trans hnone
  · rename_i hsome
    cases hsplit.symm.trans hsome
    split
    · rename_i hnone
      cases hword.symm.trans hnone
    · rename_i hsome
      cases hword.symm.trans hsome
      rw [if_neg (not_not.mpr (Bytes.number_word (chunkSum_lt dataKind front)))]
      split
      · rename_i hnone
        cases hopened.symm.trans hnone
      · rename_i hsome
        cases hopened.symm.trans hsome
        rw [if_neg hother]

end ReleaseArtifacts.Png
