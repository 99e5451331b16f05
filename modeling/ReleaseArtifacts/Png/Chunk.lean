import ReleaseArtifacts.Checksum
import ReleaseArtifacts.Png.Sample

namespace ReleaseArtifacts.Png

/-!
# Chunks

An image is a signature and a sequence of chunks.  A chunk has a length, a kind, data, and a
checksum.

* `chunk` — a chunk as it is written.
* `Preamble.read` — what the chunks before the image data say.
* `imageData` — the data of the chunks of image data, and why there is no more of it.
-/

open Deflate (Halt)

/-- Why there is no image. -/
inductive Fault
  /-- the bytes break a rule of the format -/
  | malformed
  /-- the bytes end too early -/
  | unexpectedEnd
  /-- the image would take too much room -/
  | tooLarge
deriving DecidableEq, Repr

/-- The bytes that every image begins with. -/
def signature : Bytes := [0x89, 0x50, 0x4E, 0x47, 0x0D, 0x0A, 0x1A, 0x0A]

/-! ### Kinds -/

/-- The kind of the header. -/
def headerKind : Bytes := [0x49, 0x48, 0x44, 0x52]

/-- The kind of a palette. -/
def paletteKind : Bytes := [0x50, 0x4C, 0x54, 0x45]

/-- The kind of a description of what is transparent. -/
def transparencyKind : Bytes := [0x74, 0x52, 0x4E, 0x53]

/-- The kind of image data. -/
def dataKind : Bytes := [0x49, 0x44, 0x41, 0x54]

/-- The kind of the last chunk. -/
def endKind : Bytes := [0x49, 0x45, 0x4E, 0x44]

/-- A kind that a reader has to know: its first letter is a capital. -/
def isCritical (kind : Bytes) : Bool := kind.head?.all fun b => b.toNat / 32 % 2 = 0

/-! ### Writing -/

/-- The checksum of a chunk. -/
def chunkSum (kind data : Bytes) : Nat := (Checksum.cyclic (kind ++ data)).toNat

/-- A chunk as it is written. -/
def chunk (kind data : Bytes) : Bytes :=
  Bytes.word data.length ++ kind ++ data ++ Bytes.word (chunkSum kind data)

/-! ### Reading -/

/-- The length and the kind of a chunk, and the bytes after them. -/
def opened? (bytes : Bytes) : Option (Nat × Bytes × Bytes) := do
  let (length, rest) ← bytes.split? 4
  let (kind, body) ← rest.split? 4
  return (length.number, kind, body)

/-- Opening a chunk takes bytes. -/
theorem length_of_opened? {bytes kind body : Bytes} {length : Nat}
    (h : opened? bytes = some (length, kind, body)) : body.length < bytes.length := by
  simp only [opened?, Option.bind_eq_bind, Option.bind_eq_some_iff, Option.pure_def,
    Option.some.injEq, Prod.mk.injEq, Prod.exists] at h
  obtain ⟨_, rest, h₁, _, _, h₂, _, _, rfl⟩ := h
  have := Bytes.length_of_split? h₁
  have := Bytes.length_of_split? h₂
  omega

/-- The data of a chunk, and the bytes after it. -/
def dataOf (length : Nat) (body : Bytes) : Except Fault (Bytes × Bytes) :=
  match body.split? length with
  | some parts => .ok parts
  | none => .error .unexpectedEnd

/-- The bytes after the checksum of a chunk.  It has to be right if the chunk has to be known. -/
def sealed (kind data rest : Bytes) : Except Fault Bytes :=
  match rest.split? 4 with
  | none => .error .unexpectedEnd
  | some (sum, rest) =>
    if isCritical kind ∧ sum.number ≠ chunkSum kind data then .error .malformed else .ok rest

/-- Nothing is lost with the data of a chunk. -/
theorem length_of_dataOf {length : Nat} {body data rest : Bytes}
    (h : dataOf length body = .ok (data, rest)) : rest.length ≤ body.length := by
  unfold dataOf at h
  split at h
  · rename_i parts hp
    obtain rfl : parts = (data, rest) := by simpa using h
    have := Bytes.length_of_split? hp
    omega
  · simp at h

/-- Nothing is added after a checksum. -/
theorem length_of_sealed {kind data body rest : Bytes}
    (h : sealed kind data body = .ok rest) : rest.length ≤ body.length := by
  unfold sealed at h
  split at h
  · simp at h
  · rename_i hp
    have := Bytes.length_of_split? hp
    split at h
    · simp at h
    · simp only [Except.ok.injEq] at h
      subst h
      omega

/-- What the chunks before the image data say. -/
structure Preamble where
  header : Header
  inks : Inks

namespace Preamble

/-- What a chunk adds to what is known.  A chunk that has to be known is, and is not repeated. -/
def absorb (p : Preamble) (kind data : Bytes) : Except Fault Preamble :=
  if kind = paletteKind then
    match p.inks.palette with
    | none => .ok { p with inks := { p.inks with palette := some data } }
    | some _ => .error .malformed
  else if kind = transparencyKind then
    match p.inks.transparency with
    | none =>
      let described := Inks.transparency? p.header p.inks.palette data
      .ok { p with inks := { p.inks with transparency := described } }
    | some _ => .ok p
  else if isCritical kind ∧ kind ≠ endKind then .error .malformed
  else .ok p

/-- The header, which comes first, and the bytes after it. -/
def first (bytes : Bytes) : Except Fault (Preamble × Bytes) := do
  let some (length, kind, body) := opened? bytes | .error .unexpectedEnd
  if kind ≠ headerKind then .error .malformed
  let (data, rest) ← dataOf length body
  let some header := Header.ofBytes? data | .error .malformed
  let rest ← sealed kind data rest
  return (⟨header, none, none⟩, rest)

/-- What further chunks say, with the length of the first chunk of image data and the bytes after
    its kind.  An image has image data before its end. -/
def readOn (p : Preamble) (bytes : Bytes) : Except Fault (Preamble × Nat × Bytes) :=
  match _h : opened? bytes with
  | none => .error .unexpectedEnd
  | some (length, kind, body) =>
    if kind = dataKind then .ok (p, length, body)
    else
      match _h' : dataOf length body with
      | .error fault => .error fault
      | .ok (data, rest) =>
        match p.absorb kind data with
        | .error fault => .error fault
        | .ok p =>
          match _h'' : sealed kind data rest with
          | .error fault => .error fault
          | .ok rest => if kind = endKind then .error .malformed else readOn p rest
termination_by bytes.length
decreasing_by
  have h₁ := length_of_opened? _h
  have h₂ := length_of_dataOf _h'
  have h₃ := length_of_sealed _h''
  omega

/-- What the chunks before the image data say, with the length of the first chunk of image data and
    the bytes after its kind. -/
def read (bytes : Bytes) : Except Fault (Preamble × Nat × Bytes) := do
  let (p, rest) ← first bytes
  p.readOn rest

end Preamble

/-- The data of chunks of image data, the length of the first of which is given, and why there is
    no more of it if what comes next does not begin another chunk. -/
def imageData (length : Nat) (body : Bytes) : List Bytes × Option Halt :=
  match _h : body.split? length with
  | none => ([body], some .cut)
  | some (data, rest) =>
    match _h' : rest.split? 4 with
    | none => ([data], some .cut)
    | some (sum, rest) =>
      if sum.number ≠ chunkSum dataKind data then ([data], some .corrupt)
      else
        match _h'' : opened? rest with
        | none => ([data], some .cut)
        | some (length, kind, body) =>
          if kind = dataKind then
            let more := imageData length body
            (data :: more.1, more.2)
          else ([data], none)
termination_by body.length
decreasing_by
  have h₁ := Bytes.length_of_split? _h
  have h₂ := Bytes.length_of_split? _h'
  have h₃ := length_of_opened? _h''
  omega

end ReleaseArtifacts.Png
