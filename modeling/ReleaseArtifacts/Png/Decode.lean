import ReleaseArtifacts.Deflate.Inflate
import ReleaseArtifacts.Png.Chunk
import ReleaseArtifacts.Png.Interlace

namespace ReleaseArtifacts.Png

/-!
# Decoding images

* `decode` — the picture that an image shows, and the layout it is written in.
* `scan` — the pixels of all passes.
-/

open Deflate (Halt)

/-! ### Pixels -/

/-- The pixels of a row of a pass. -/
def rowPixels? (p : Preamble) (width : Nat) (row : Bytes) : Option (Array Pixel) :=
  let grouped := groups p.header.colour.channels (samples p.header.depth row)
  ((grouped.take width).mapM (p.inks.pixel? p.header)).map List.toArray

/-- The rows of pixels of a pass, and the data after them. -/
def passPixels (p : Preamble) (pass : Pass) (data : Bytes) :
    Except Halt (Array (Array Pixel) × Bytes) := do
  let length := p.header.rowLength (pass.width p.header)
  let (lines, rest) ←
    rows p.header.pixelLength length (pass.height p.header) (List.replicate length 0) data
  match lines.mapM (rowPixels? p (pass.width p.header)) with
  | none => .error .corrupt
  | some pixels => return (pixels.toArray, rest)

/-- The pixels of several passes. -/
def scan (p : Preamble) : (passes : List Pass) → (data : Bytes) →
    Except Halt (List (Pass × Array (Array Pixel)))
  | [], _ => .ok []
  | pass :: passes, data => do
    let (pixels, rest) ← passPixels p pass data
    let others ← scan p passes rest
    return (pass, pixels) :: others

/-- The pixel at a place of the image, which belongs to the first pass that covers it. -/
def pixelAt (passes : List (Pass × Array (Array Pixel))) (x y : Nat) : Pixel :=
  ((do
    let (pass, pixels) ← passes.find? fun q => q.1.covers x y
    let row ← pixels[(y - pass.row) / pass.rowStep]?
    row[(x - pass.column) / pass.columnStep]? : Option Pixel)).getD ⟨0, 0, 0, 0⟩

/-! ### Images -/

/-- A picture and the layout it is written in. -/
structure Decoded where
  layout : Layout
  picture : Picture

/-- An image takes no more room than this. -/
def roomLimit : Nat := 536870912

/-- What to make of image data: what its rows hold, whether the compressed stream was whole, and
    whether the chunks were.  Data that breaks a rule is malformed even if it ends early, and data
    that ends early is whole if and only if the image goes on after it. -/
def outcome {α : Type} (scanned : Except Halt α) (inflated chunks : Option Halt) :
    Except Fault α :=
  match scanned, inflated, chunks with
  | .error .corrupt, _, _ => .error .malformed
  | _, some .corrupt, _ => .error .malformed
  | _, _, some .corrupt => .error .malformed
  | _, _, some .cut => .error .unexpectedEnd
  | .error .cut, _, none => .error .malformed
  | .ok _, some .cut, none => .error .malformed
  | .ok value, none, none => .ok value

/-- The picture that an image shows, after the signature. -/
def decodeChunks (bytes : Bytes) : Except Fault Decoded := do
  let (p, length, body) ← Preamble.read bytes
  let layout := Layout.ofHeader p.header p.inks
  let width := p.header.width
  let height := p.header.height
  if roomLimit < width * height * layout.pixelLength then .error .tooLarge
  let (data, halt) := imageData length body
  let inflated := Deflate.inflate data.flatten
  let passes ← outcome (scan p p.header.passes inflated.output.toList) inflated.halt halt
  return ⟨layout, width, height, .build width height (pixelAt passes)⟩

/-- The picture that an image shows. -/
def decode (bytes : Bytes) : Except Fault Decoded :=
  match bytes.split? signature.length with
  | some (front, rest) => if front = signature then decodeChunks rest else .error .malformed
  | none => .error .unexpectedEnd

end ReleaseArtifacts.Png
