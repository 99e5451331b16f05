import Mathlib.Data.List.Basic
import ReleaseArtifacts.Deflate.Inflate
import ReleaseArtifacts.Deflate.Stored

namespace ReleaseArtifacts.Deflate

/-!
# Stored blocks are read back

A stream of stored blocks gives back the bytes that it was made of.

* `stored_eq_ok` — the content of a block.
* `blocks_storedBlock` — a block: its bytes are put out, and reading goes on after it unless it is
  the final one.
* `inflate_storedStream` — a stream.
* `length_storedStream_le` — how long a stream is at most.
-/

/-! ### One block -/

/-- Writing a number as two bytes and reading it back. -/
theorem pair_pairOf {n : Nat} (h : n ≤ blockLimit) :
    pair (UInt8.ofNat n) (UInt8.ofNat (n / 256)) = n := by
  rw [blockLimit] at h
  simp only [pair, UInt8.toNat_ofNat']
  omega

/-- What comes after the first byte of a block: the length, given twice, and the bytes. -/
def storedContent (bytes : Bytes) : Bytes :=
  pairOf bytes.length ++ pairOf (blockLimit - bytes.length) ++ bytes

theorem storedBlock_eq (final : Bool) (bytes : Bytes) :
    storedBlock final bytes = (if final then 1 else 0) :: storedContent bytes := rfl

theorem length_storedBlock (final : Bool) (bytes : Bytes) :
    (storedBlock final bytes).length = bytes.length + 5 := by
  simp [storedBlock, pairOf]

/-- **The content of a block.**  The bits left of the byte that was begun are dropped. -/
theorem stored_eq_ok (output : Array UInt8) {bytes : Bytes} (h : bytes.length ≤ blockLimit)
    (begun count : Nat) (rest : Bytes) :
    ∃ r, stored output ⟨begun, count, storedContent bytes ++ rest⟩ = .ok r ∧
      r.value = output ++ bytes ∧ r.rest = .ofBytes rest := by
  have hlength := pair_pairOf h
  have hinverted := pair_pairOf (Nat.sub_le blockLimit bytes.length)
  have hsum : ¬ bytes.length + (blockLimit - bytes.length) ≠ 65535 := by
    simp only [blockLimit] at h ⊢
    omega
  have hfront : (bytes ++ rest).splitAt bytes.length = (bytes, rest) := by simp
  -- Both numbers are what was written, they agree, and that many bytes are there.
  unfold stored
  simp only [storedContent, pairOf, List.cons_append, List.nil_append, hlength, hinverted,
    if_neg hsum, hfront, if_true]
  exact ⟨_, rfl, rfl, rfl⟩

/-- The three bits that a block begins with, in a byte of their own. -/
theorem blocks_cons (final : Bool) (output : Array UInt8) (bytes : Bytes) :
    blocks output (.ofBytes ((if final then 1 else 0) :: bytes)) =
      stored output ⟨0, 5, bytes⟩ >>= fun r =>
        if final then .ok (r.value, r.rest) else blocks r.value r.rest := by
  rw [blocks]
  -- With the byte known, all three bits can be evaluated.
  cases final <;> rfl

/-- **A block.**  Its bytes are put out, and reading goes on after it unless it is the final
    one. -/
theorem blocks_storedBlock (final : Bool) (output : Array UInt8) {bytes : Bytes}
    (h : bytes.length ≤ blockLimit) (rest : Bytes) :
    blocks output (.ofBytes (storedBlock final bytes ++ rest)) =
      if final then .ok (output ++ bytes, .ofBytes rest)
      else blocks (output ++ bytes) (.ofBytes rest) := by
  obtain ⟨r, hr, hvalue, hrest⟩ := stored_eq_ok output h 0 5 rest
  rw [storedBlock_eq, List.cons_append, blocks_cons, hr, ← hvalue, ← hrest]
  rfl

/-! ### All blocks -/

/-- **All blocks.**  The induction is on the blocks that are written, with the output so far. -/
theorem blocks_storedBlocks (output : Array UInt8) (bytes rest : Bytes) :
    blocks output (.ofBytes (storedBlocks bytes ++ rest)) =
      .ok (output ++ bytes, .ofBytes rest) := by
  induction bytes using storedBlocks.induct generalizing output with
  | case1 bytes h =>
    rw [storedBlocks, dif_pos h, blocks_storedBlock true output h, if_pos rfl]
  | case2 bytes h ih =>
    -- The first block is put out, and the others after it.
    have htake : (bytes.take blockLimit).length ≤ blockLimit := List.length_take_le ..
    have hall : output ++ bytes.take blockLimit ++ bytes.drop blockLimit = output ++ bytes :=
      Array.toList_inj.mp (by simp only [Array.toList_appendList, List.append_assoc,
        List.take_append_drop])
    rw [storedBlocks, dif_neg h, List.append_assoc, blocks_storedBlock false output htake,
      if_neg Bool.false_ne_true, ih, hall]

/-- Blocks are no longer than twice the bytes they hold, but for the last one. -/
theorem length_storedBlocks_le (bytes : Bytes) :
    (storedBlocks bytes).length ≤ 2 * bytes.length + 5 := by
  induction bytes using storedBlocks.induct with
  | case1 bytes h =>
    rw [storedBlocks, dif_pos h, length_storedBlock]
    omega
  | case2 bytes h ih =>
    rw [storedBlocks, dif_neg h, List.length_append, length_storedBlock]
    simp only [List.length_take, List.length_drop, blockLimit] at *
    omega

/-! ### Streams -/

/-- **A stream gives back its bytes.** -/
theorem inflate_storedStream (bytes : Bytes) :
    inflate (storedStream bytes) = ⟨bytes.toArray, none⟩ := by
  have hheader : isHeader 0x78 0x01 = true := by decide
  rw [storedStream, inflate, if_pos hheader, blocks_storedBlocks]
  simp [BitSource.ofBytes, Bytes.word]

/-- How long a stream is at most. -/
theorem length_storedStream_le (bytes : Bytes) :
    (storedStream bytes).length ≤ 2 * bytes.length + 11 := by
  have := length_storedBlocks_le bytes
  simp only [storedStream, List.length_cons, List.length_append, Bytes.word, List.length_nil]
  omega

end ReleaseArtifacts.Deflate
