import ReleaseArtifacts.Deflate.Code

namespace ReleaseArtifacts.Deflate

/-!
# Inflating

A compressed stream is a header, blocks, and a sum.  A block holds bytes as they are, or symbols of
two codes: bytes, and copies of what came shortly before.

* `inflate` — the bytes of a stream, and why there are no more if the stream is not whole.
* `blocks` — the bytes of blocks up to the final one.
-/

/-- What a stream holds. -/
structure Inflated where
  output : Array UInt8
  /-- why there is no more of it, if the stream is not whole -/
  halt : Option Halt

/-- A step that stops with the output so far and the reason. -/
abbrev Inflating (α : Type) := Except (Array UInt8 × Halt) α

/-- A step that makes no output. -/
def quietly {α : Type} (output : Array UInt8) (step : Except Halt α) : Inflating α :=
  step.mapError (output, ·)

/-! ### Symbols -/

/-- The least length that each length symbol stands for, and how many bits are added to it. -/
def lengthTable : Array (Nat × Nat) :=
  #[(3, 0), (4, 0), (5, 0), (6, 0), (7, 0), (8, 0), (9, 0), (10, 0), (11, 1), (13, 1), (15, 1),
    (17, 1), (19, 2), (23, 2), (27, 2), (31, 2), (35, 3), (43, 3), (51, 3), (59, 3), (67, 4),
    (83, 4), (99, 4), (115, 4), (131, 5), (163, 5), (195, 5), (227, 5), (258, 0)]

/-- The least distance that each distance symbol stands for, and how many bits are added to it. -/
def distanceTable : Array (Nat × Nat) :=
  #[(1, 0), (2, 0), (3, 0), (4, 0), (5, 1), (7, 1), (9, 2), (13, 2), (17, 3), (25, 3), (33, 4),
    (49, 4), (65, 5), (97, 5), (129, 6), (193, 6), (257, 7), (385, 7), (513, 8), (769, 8),
    (1025, 9), (1537, 9), (2049, 10), (3073, 10), (4097, 11), (6145, 11), (8193, 12), (12289, 12),
    (16385, 13), (24577, 13)]

/-- The number that a row of a table and the bits after it stand for. -/
def tabled (table : Array (Nat × Nat)) (row : Nat) (s : BitSource) : Except Halt (Passed Nat s) :=
  match table[row]? with
  | none => .error .corrupt
  | some (least, extra) => do
    let more ← s.bits extra
    return ⟨least + more.value, more.rest, more.le⟩

/-- The two codes of a block. -/
structure Codes where
  literal : Code
  distance : Code

/-- Repeats `n` bytes, beginning `distance` bytes before the end. -/
def copy (output : Array UInt8) (distance : Nat) : (n : Nat) → Array UInt8
  | 0 => output
  | n + 1 => copy (output.push (output[output.size - distance]?.getD 0)) distance n

/-- What is copied: so many bytes, which begin `distance` bytes before the end. -/
structure Stretch where
  length : Nat
  distance : Nat

/-- What is copied; the length symbol has been read. -/
def readStretch (codes : Codes) (row : Nat) (s : BitSource) : Except Halt (Passed Stretch s) := do
  let length ← tabled lengthTable row s
  let symbol ← codes.distance.read length.rest
  let distance ← tabled distanceTable symbol.value symbol.rest
  return ⟨⟨length.value, distance.value⟩, distance.rest,
    Nat.le_trans distance.le (Nat.le_trans (Nat.le_of_lt symbol.less) length.le)⟩

/-- The symbols of a block up to its end.  `whole` is where they began. -/
def symbolsWithin {whole : BitSource} (codes : Codes) (output : Array UInt8) (s : BitSource)
    (h : s.size ≤ whole.size) : Inflating (Drawn (Array UInt8) whole) := do
  let symbol ← quietly output (codes.literal.read s)
  if symbol.value < 256 then
    symbolsWithin codes (output.push (UInt8.ofNat symbol.value)) symbol.rest
      (Nat.le_trans (Nat.le_of_lt symbol.less) h)
  else if symbol.value = 256 then
    return ⟨output, symbol.rest, Nat.lt_of_lt_of_le symbol.less h⟩
  else
    let r ← quietly output (readStretch codes (symbol.value - 257) symbol.rest)
    if output.size < r.value.distance then .error (output, .corrupt)
    else
      symbolsWithin codes (copy output r.value.distance r.value.length) r.rest
        (Nat.le_trans r.le (Nat.le_trans (Nat.le_of_lt symbol.less) h))
termination_by s.size
decreasing_by
  · exact symbol.less
  · exact Nat.lt_of_le_of_lt r.le symbol.less

/-- The symbols of a block up to its end. -/
def symbols (codes : Codes) (output : Array UInt8) (s : BitSource) :
    Inflating (Drawn (Array UInt8) s) :=
  symbolsWithin codes output s s.size_le

/-! ### Codes of a block -/

/-- The codes of a block that names none. -/
def fixedCodes : Codes :=
  ⟨Code.ofLengths (List.replicate 144 8 ++ List.replicate 112 9 ++ List.replicate 24 7 ++
      List.replicate 8 8),
    Code.ofLengths (List.replicate 32 5)⟩

/-- Code lengths are coded themselves; their own lengths come in this order. -/
def lengthOrder : List Nat := [16, 17, 18, 0, 8, 7, 9, 6, 10, 5, 11, 4, 12, 3, 13, 2, 14, 1, 15]

/-- Several numbers of three bits. -/
def triples : (n : Nat) → (s : BitSource) → Except Halt (Passed (List Nat) s)
  | 0, s => .ok ⟨[], s, s.size_le⟩
  | n + 1, s => do
    let first ← s.bits 3
    let others ← triples n first.rest
    return ⟨first.value :: others.value, others.rest, Nat.le_trans others.le first.le⟩

/-- The lengths that a symbol of the code of lengths stands for, of which the last one before is
    given: a length, or one length several times. -/
def repeated (symbol : Nat) (last : Option Nat) (s : BitSource) :
    Except Halt (Passed (List Nat) s) :=
  if symbol < 16 then .ok ⟨[symbol], s, s.size_le⟩
  else if symbol = 16 then do
    let length ← match last with
      | none => .error .corrupt
      | some length => .ok length
    let n ← s.bits 2
    return ⟨List.replicate (3 + n.value) length, n.rest, n.le⟩
  else if symbol = 17 then do
    let n ← s.bits 3
    return ⟨List.replicate (3 + n.value) 0, n.rest, n.le⟩
  else do
    let n ← s.bits 7
    return ⟨List.replicate (11 + n.value) 0, n.rest, n.le⟩

/-- Lengths up to a given number of them; those so far are in reverse. -/
def lengthsWithin {whole : BitSource} (code : Code) (wanted : Nat) (done : List Nat)
    (s : BitSource) (h : s.size ≤ whole.size) : Except Halt (Passed (List Nat) whole) := do
  if done.length = wanted then return ⟨done.reverse, s, h⟩
  let symbol ← code.read s
  let next ← repeated symbol.value done.head? symbol.rest
  let all := next.value ++ done
  if wanted < all.length then .error .corrupt
  else
    lengthsWithin code wanted all next.rest
      (Nat.le_trans next.le (Nat.le_trans (Nat.le_of_lt symbol.less) h))
termination_by s.size
decreasing_by exact Nat.lt_of_le_of_lt next.le symbol.less

/-- The code of the lengths, whose own lengths are given in their order. -/
def codeOfLengths (lengths : List Nat) : Code :=
  let known := lengthOrder.zip lengths
  Code.ofLengths ((List.range 19).map fun symbol => (known.lookup symbol).getD 0)

/-- The codes that a block names. -/
def namedCodes (s : BitSource) : Except Halt (Passed Codes s) := do
  let literals ← s.bits 5
  let distances ← literals.rest.bits 5
  let listed ← distances.rest.bits 4
  if 286 < literals.value + 257 ∨ 30 < distances.value + 1 then .error .corrupt
  let own ← triples (listed.value + 4) listed.rest
  let code := codeOfLengths own.value
  if !code.isComplete then .error .corrupt
  let lengths ← lengthsWithin code (literals.value + 257 + (distances.value + 1)) [] own.rest
    own.rest.size_le
  let (forLiterals, forDistances) := lengths.value.splitAt (literals.value + 257)
  let codes : Codes := ⟨Code.ofLengths forLiterals, Code.ofLengths forDistances⟩
  if forLiterals[256]?.getD 0 = 0 ∨ !codes.literal.isComplete then .error .corrupt
  if !codes.distance.isComplete && !codes.distance.isTrivial then .error .corrupt
  return ⟨codes, lengths.rest, Nat.le_trans lengths.le (Nat.le_trans own.le
    (Nat.le_trans listed.le (Nat.le_trans distances.le literals.le)))⟩

/-! ### Blocks -/

/-- The number that two bytes write, the lower one first. -/
def pair (low high : UInt8) : Nat := low.toNat + 256 * high.toNat

/-- A block of bytes as they are.  Its length is given twice, the second time inverted. -/
def stored (output : Array UInt8) (s : BitSource) : Inflating (Passed (Array UInt8) s) :=
  match h : s.bytes with
  | a :: b :: c :: d :: bytes =>
    let length := pair a b
    if length + pair c d ≠ 65535 then .error (output, .corrupt)
    else
      match h' : bytes.splitAt length with
      | (front, rest) =>
        if front.length = length then
          .ok ⟨output ++ front, .ofBytes rest, by
            have : rest = bytes.drop length := by simpa using (congrArg Prod.snd h').symm
            subst this
            simp only [BitSource.ofBytes, BitSource.size, h, List.length_cons, List.length_drop]
            omega⟩
        else .error (output ++ front, .cut)
  | _ => .error (output, .cut)

/-- The content of a block whose kind has been read. -/
def content (kind : Nat) (output : Array UInt8) (s : BitSource) :
    Inflating (Passed (Array UInt8) s) :=
  match kind with
  | 0 => stored output s
  | 1 => do
    let r ← symbols fixedCodes output s
    return ⟨r.value, r.rest, Nat.le_of_lt r.less⟩
  | 2 => do
    let codes ← quietly output (namedCodes s)
    let r ← symbols codes.value output codes.rest
    return ⟨r.value, r.rest, Nat.le_trans (Nat.le_of_lt r.less) codes.le⟩
  | _ => .error (output, .corrupt)

/-- The bytes of blocks up to the final one, and the stream after it. -/
def blocks (output : Array UInt8) (s : BitSource) : Inflating (Array UInt8 × BitSource) := do
  let final ← quietly output s.bit
  let kind ← quietly output (final.rest.bits 2)
  let r ← content kind.value output kind.rest
  if final.value then return (r.value, r.rest)
  else blocks r.value r.rest
termination_by s.size
decreasing_by exact Nat.lt_of_le_of_lt r.le (Nat.lt_of_le_of_lt kind.le final.less)

/-! ### Streams -/

/-- The two bytes of a header: the method, the size of the window, no dictionary, and a check. -/
def isHeader (a b : UInt8) : Bool :=
  a.toNat % 16 = 8 ∧ a.toNat / 16 ≤ 7 ∧ b.toNat / 32 % 2 = 0 ∧ (256 * a.toNat + b.toNat) % 31 = 0

/-- The bytes of a stream.  The sum at its end has to be there, whatever it is. -/
def inflate (stream : Bytes) : Inflated :=
  match stream with
  | a :: b :: bytes =>
    if isHeader a b then
      match blocks #[] (.ofBytes bytes) with
      | .error (output, halt) => ⟨output, some halt⟩
      | .ok (output, rest) => ⟨output, if rest.bytes.length < 4 then some .cut else none⟩
    else ⟨#[], some .corrupt⟩
  | _ => ⟨#[], some .cut⟩

end ReleaseArtifacts.Deflate
