namespace ReleaseArtifacts

/-!
# Bytes

Contents of files are lists of bytes.  Numbers in them have their highest byte first.

* `Bytes.word` — a number as four bytes.
* `Bytes.number` — the number that bytes write.
* `Bytes.split?` — so many bytes from the front, unless there are fewer.
-/

/-- The contents of a file. -/
abbrev Bytes := List UInt8

namespace Bytes

/-- The number that bytes write, the highest byte first. -/
def number (bytes : Bytes) : Nat := bytes.foldl (fun n b => 256 * n + b.toNat) 0

/-- The four bytes that write a number below 2³². -/
def word (n : Nat) : Bytes :=
  [UInt8.ofNat (n / 16777216), UInt8.ofNat (n / 65536), UInt8.ofNat (n / 256), UInt8.ofNat n]

/-- The first `n` bytes and the rest, unless there are fewer. -/
def split? (n : Nat) (bytes : Bytes) : Option (Bytes × Bytes) :=
  let parts := bytes.splitAt n
  if parts.1.length = n then some parts else none

/-- Writing a number and reading it back. -/
theorem number_word {n : Nat} (h : n < 4294967296) : number (word n) = n := by
  simp [number, word, UInt8.toNat_ofNat']
  omega

/-- What comes before the rest is taken as it is. -/
theorem split?_append (front rest : Bytes) :
    split? front.length (front ++ rest) = some (front, rest) := by
  simp [split?]

/-- Nothing is lost by splitting. -/
theorem length_of_split? {n : Nat} {bytes front rest : Bytes}
    (h : split? n bytes = some (front, rest)) : bytes.length = n + rest.length := by
  simp only [split?, List.splitAt_eq, Option.ite_none_right_eq_some, Option.some.injEq,
    Prod.mk.injEq, List.length_take] at h
  obtain ⟨hn, rfl, rfl⟩ := h
  simp only [List.length_drop]
  omega

end Bytes

end ReleaseArtifacts
