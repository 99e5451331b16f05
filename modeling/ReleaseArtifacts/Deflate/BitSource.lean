import ReleaseArtifacts.Bytes

namespace ReleaseArtifacts.Deflate

/-!
# Bits of a compressed stream

Compressed streams are read bit by bit, the lowest bit of each byte first.

* `BitSource` — what is left of a stream, with the bits left of a byte that was begun.
* `Drawn`, `Passed` — a value and the source after it, which is smaller, or not larger.
* `BitSource.bit`, `BitSource.bits` — one bit, and a number of several bits.
-/

/-- Why a stream could not be read to its end. -/
inductive Halt
  /-- the stream ends too early -/
  | cut
  /-- the stream breaks a rule of the format -/
  | corrupt
deriving DecidableEq, Repr

/-- What is left of a stream. -/
structure BitSource where
  /-- the number written by the bits left of the byte that was begun -/
  begun : Nat
  /-- how many bits these are -/
  count : Nat
  /-- the bytes after it -/
  bytes : Bytes

/-- How many bits are left. -/
def BitSource.size (s : BitSource) : Nat := s.count + 8 * s.bytes.length

/-- A step that draws nothing leaves as many. -/
theorem BitSource.size_le (s : BitSource) : s.size ≤ s.size := Nat.le_refl _

/-- A value and the smaller source after it. -/
structure Drawn (α : Type) (s : BitSource) where
  value : α
  rest : BitSource
  less : rest.size < s.size

/-- A value and the source after it, which may be the same. -/
structure Passed (α : Type) (s : BitSource) where
  value : α
  rest : BitSource
  le : rest.size ≤ s.size

namespace BitSource

/-- A stream of which nothing was read. -/
def ofBytes (bytes : Bytes) : BitSource := ⟨0, 0, bytes⟩

/-- The next bit. -/
def bit : (s : BitSource) → Except Halt (Drawn Bool s)
  | ⟨begun, count + 1, bytes⟩ =>
    .ok ⟨begun % 2 = 1, ⟨begun / 2, count, bytes⟩, by simp only [size]; omega⟩
  | ⟨_, 0, []⟩ => .error .cut
  | ⟨_, 0, b :: bytes⟩ =>
    .ok ⟨b.toNat % 2 = 1, ⟨b.toNat / 2, 7, bytes⟩, by simp only [size, List.length_cons]; omega⟩

/-- The number that the next `n` bits write, the lowest first. -/
def bits : (n : Nat) → (s : BitSource) → Except Halt (Passed Nat s)
  | 0, s => .ok ⟨0, s, s.size_le⟩
  | n + 1, s => do
    let low ← s.bit
    let high ← bits n low.rest
    return ⟨low.value.toNat + 2 * high.value, high.rest,
      Nat.le_trans high.le (Nat.le_of_lt low.less)⟩

/-- The number that the bits of a nonempty field write. -/
def field (n : Nat) (s : BitSource) : Except Halt (Drawn Nat s) := do
  let low ← s.bit
  let high ← bits n low.rest
  return ⟨low.value.toNat + 2 * high.value, high.rest, Nat.lt_of_le_of_lt high.le low.less⟩

end BitSource

end ReleaseArtifacts.Deflate
