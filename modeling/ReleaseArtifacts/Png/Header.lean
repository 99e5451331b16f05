import ReleaseArtifacts.Bytes

namespace ReleaseArtifacts.Png

/-!
# Headers of images

* `Header` — the size of an image, how its samples are written, and what they mean.
* `Header.ofBytes?` — the header that the first chunk holds.
-/

/-- What the samples of a pixel mean. -/
inductive Colour
  | grey
  | rgb
  | indexed
  | greyAlpha
  | rgba
deriving DecidableEq, Repr

namespace Colour

/-- The number that stands for a meaning. -/
def code : Colour → Nat
  | grey => 0
  | rgb => 2
  | indexed => 3
  | greyAlpha => 4
  | rgba => 6

/-- The meaning that a number stands for. -/
def ofCode? : Nat → Option Colour
  | 0 => some grey
  | 2 => some rgb
  | 3 => some indexed
  | 4 => some greyAlpha
  | 6 => some rgba
  | _ => none

/-- How many samples a pixel has. -/
def channels : Colour → Nat
  | grey => 1
  | rgb => 3
  | indexed => 1
  | greyAlpha => 2
  | rgba => 4

/-- How many bits a sample may have. -/
def depths : Colour → List Nat
  | grey => [1, 2, 4, 8, 16]
  | indexed => [1, 2, 4, 8]
  | _ => [8, 16]

end Colour

/-- The size of an image and the form of its samples. -/
structure Header where
  width : Nat
  height : Nat
  /-- the bits of a sample -/
  depth : Nat
  colour : Colour
  interlaced : Bool
deriving DecidableEq, Repr

namespace Header

/-- How many bytes the samples of a row of `width` pixels take. -/
def rowLength (h : Header) (width : Nat) : Nat := (width * h.colour.channels * h.depth + 7) / 8

/-- How many bytes lie between a byte and the same byte of the next pixel. -/
def pixelLength (h : Header) : Nat := (h.colour.channels * h.depth + 7) / 8

/-- The header that a chunk holds.  An empty image has none, and neither has an unknown form of
    samples, compression, filtering or interlacing. -/
def ofBytes? (bytes : Bytes) : Option Header := do
  let (width, rest) ← bytes.split? 4
  let (height, rest) ← rest.split? 4
  match rest with
  | depth :: colour :: compression :: filtering :: interlacing :: _ =>
    let colour ← Colour.ofCode? colour.toNat
    if width.number = 0 ∨ height.number = 0 ∨ depth.toNat ∉ colour.depths ∨ compression ≠ 0 ∨
        filtering ≠ 0 ∨ 1 < interlacing.toNat then none
    else some ⟨width.number, height.number, depth.toNat, colour, interlacing = 1⟩
  | _ => none

/-- The bytes of a header. -/
def bytes (h : Header) : Bytes :=
  Bytes.word h.width ++ Bytes.word h.height ++
    [UInt8.ofNat h.depth, UInt8.ofNat h.colour.code, 0, 0, if h.interlaced then 1 else 0]

end Header

end ReleaseArtifacts.Png
