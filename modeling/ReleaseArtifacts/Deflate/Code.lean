import ReleaseArtifacts.Deflate.BitSource

namespace ReleaseArtifacts.Deflate

/-!
# Canonical codes

A canonical code is known from the lengths of its code words: words of one length are given to
their symbols in order, and after the last word of a length comes the first word of the next.

* `Code.ofLengths` — the code with given lengths.
* `Code.read` — the symbol of the next code word.
* `Code.isComplete` — every sequence of bits starts with a code word.
-/

/-- The symbols of a canonical code, those with words of one bit first. -/
structure Code where
  levels : List (Array Nat)

namespace Code

/-- The longest code word has this many bits. -/
def longest : Nat := 15

/-- The symbols whose words have `n` bits. -/
def level (lengths : List Nat) (n : Nat) : Array Nat :=
  ((lengths.zipIdx.filter (·.1 = n)).map (·.2)).toArray

/-- The code in which the words of the symbols have the given lengths; a symbol of length zero has
    no word. -/
def ofLengths (lengths : List Nat) : Code :=
  ⟨(List.range longest).map fun n => level lengths (n + 1)⟩

/-- How many words of the greatest length seen could still be given, or nothing if too many words
    were given. -/
def room? (levels : List (Array Nat)) : Option Nat :=
  levels.foldlM (fun room l => if l.size ≤ 2 * room then some (2 * room - l.size) else none) 1

/-- Every sequence of bits starts with exactly one code word. -/
def isComplete (c : Code) : Bool := room? c.levels = some 0

/-- How many symbols have a word. -/
def symbolCount (c : Code) : Nat := c.levels.foldl (fun count level => count + level.size) 0

/-- A code with a single word of one bit, or none at all. -/
def isTrivial (c : Code) : Bool :=
  c.symbolCount = 0 ∨ (c.symbolCount = 1 ∧ (c.levels.head?.map Array.size) = some 1)

/-- Reads a word, of which the symbols of the remaining lengths are given.  `offset` counts the
    words of the length so far that come before the bits read, beginning after the last word
    given. -/
def readWithin : (levels : List (Array Nat)) → (offset : Nat) → (s : BitSource) →
    Except Halt (Drawn Nat s)
  | [], _, _ => .error .corrupt
  | level :: deeper, offset, s => do
    let b ← s.bit
    let place := 2 * offset + b.value.toNat
    match level[place]? with
    | some symbol => return ⟨symbol, b.rest, b.less⟩
    | none =>
      let r ← readWithin deeper (place - level.size) b.rest
      return ⟨r.value, r.rest, Nat.lt_trans r.less b.less⟩

/-- The symbol of the next code word. -/
def read (c : Code) (s : BitSource) : Except Halt (Drawn Nat s) := readWithin c.levels 0 s

end Code

end ReleaseArtifacts.Deflate
