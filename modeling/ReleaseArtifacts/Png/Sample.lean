import ReleaseArtifacts.Png.Header
import ReleaseArtifacts.Png.Scanline
import ReleaseArtifacts.Raster.Basic

namespace ReleaseArtifacts.Png

/-!
# Samples and pixels

* `samples` — the numbers that the bytes of a row write.
* `Inks` — what else the colour of a pixel depends on: a palette, and what is transparent.
* `Inks.pixel?` — the pixel that samples stand for, with eight bits for each channel.
* `Layout` — the channels of an image and how fine they are.
-/

/-! ### Samples -/

/-- The `n` highest numbers of `depth` bits that a byte writes, from the left. -/
def unpack (depth b : Nat) : (n : Nat) → List Nat
  | 0 => []
  | n + 1 => b / Nat.pow 2 (n * depth) % Nat.pow 2 depth :: unpack depth b n

/-- The numbers of two bytes each. -/
def wide : Bytes → List Nat
  | a :: b :: bytes => (256 * a.toNat + b.toNat) :: wide bytes
  | bytes => bytes.map UInt8.toNat

/-- The numbers that the bytes of a row write. -/
def samples (depth : Nat) (row : Bytes) : List Nat :=
  if depth = 8 then row.map UInt8.toNat
  else if depth = 16 then wide row
  else row.flatMap fun b => unpack depth b.toNat (8 / depth)

/-! ### Inks -/

/-- What is transparent in an image. -/
inductive Transparency
  /-- every pixel with exactly these samples -/
  | key (samples : List Nat)
  /-- the colours of the palette, each in its own degree -/
  | degrees (alphas : Bytes)

/-- What the colour of a pixel depends on besides its samples. -/
structure Inks where
  /-- three bytes for each colour -/
  palette : Option Bytes
  transparency : Option Transparency

namespace Inks

/-- Every other byte, beginning with the second: the lower halves of wide numbers. -/
def lowHalves (bytes : Bytes) : List Nat := (wide bytes).map (· % 256)

/-- The transparency that a chunk describes for an image with this header.  A chunk that does not
    fit describes none. -/
def transparency? (h : Header) (palette : Option Bytes) (bytes : Bytes) : Option Transparency :=
  let key (n : Nat) :=
    if bytes.length < 2 * n then none
    else if h.depth = 16 then some (.key (wide bytes))
    else some (.key (lowHalves (bytes.take (2 * n))))
  match h.colour with
  | .grey => key 1
  | .rgb => key 3
  | .indexed => palette.map fun _ => .degrees bytes
  | _ => none

/-- A number of `depth` bits as one of eight. -/
def level (depth n : Nat) : UInt8 :=
  if depth = 16 then UInt8.ofNat ((n + 128) / 257)
  else if depth = 8 then UInt8.ofNat n
  else UInt8.ofNat (n * (255 / (Nat.pow 2 depth - 1)))

/-- The opacity of a pixel whose samples do not tell it. -/
def opacity (inks : Inks) (samples : List Nat) : UInt8 :=
  match inks.transparency with
  | some (.key k) => if samples = k then 0 else 255
  | _ => 255

/-- A colour of the palette.  A colour that is missing is black, and degrees of transparency count
    only where they are no more than the colours. -/
def entry (palette : Bytes) (transparency : Option Transparency) (index : Nat) : Pixel :=
  let alpha : UInt8 :=
    match transparency with
    | some (.degrees alphas) =>
      if alphas.length ≤ palette.length / 3 then alphas[index]?.getD 255 else 255
    | _ => 255
  match palette.drop (3 * index) with
  | r :: g :: b :: _ => ⟨r, g, b, alpha⟩
  | _ => ⟨0, 0, 0, alpha⟩

/-- The pixel that samples stand for; an image with a palette has to have one. -/
def pixel? (inks : Inks) (h : Header) (samples : List Nat) : Option Pixel :=
  match h.colour, samples with
  | .grey, [v] => some ⟨level h.depth v, level h.depth v, level h.depth v, inks.opacity [v]⟩
  | .greyAlpha, [v, a] =>
    some ⟨level h.depth v, level h.depth v, level h.depth v, level h.depth a⟩
  | .rgb, [r, g, b] =>
    some ⟨level h.depth r, level h.depth g, level h.depth b, inks.opacity [r, g, b]⟩
  | .rgba, [r, g, b, a] =>
    some ⟨level h.depth r, level h.depth g, level h.depth b, level h.depth a⟩
  | .indexed, [i] => inks.palette.map fun p => entry p inks.transparency i
  | _, _ => none

end Inks

/-! ### Layouts -/

/-- The channels of an image and how fine they are. -/
structure Layout where
  coloured : Bool
  translucent : Bool
  /-- sixteen bits for a channel instead of eight -/
  deep : Bool
deriving DecidableEq, Repr

namespace Layout

/-- The layout of an image. -/
def ofHeader (h : Header) (inks : Inks) : Layout where
  coloured := h.colour ≠ .grey ∧ h.colour ≠ .greyAlpha
  translucent := h.colour = .rgba ∨ h.colour = .greyAlpha ∨ inks.transparency.isSome
  deep := h.depth = 16

/-- How many bytes a pixel takes. -/
def pixelLength (l : Layout) : Nat :=
  ((if l.coloured then 3 else 1) + (if l.translucent then 1 else 0)) * (if l.deep then 2 else 1)

/-- The name of a layout. -/
def name (l : Layout) : String :=
  (if l.coloured then "Rgb" else "L") ++ (if l.translucent then "a" else "") ++
    (if l.deep then "16" else "8")

end Layout

end ReleaseArtifacts.Png
