import ReleaseArtifacts.Deflate.Stored
import ReleaseArtifacts.Png.Chunk

namespace ReleaseArtifacts.Png

/-!
# Encoding images

Images are written plainly: four channels of eight bits, nothing predicted, nothing compressed.

* `encode` — a picture as an image, unless it is empty.
-/

/-- Why a picture cannot be written. -/
inductive EmptySide
  | width
  | height
deriving DecidableEq, Repr

/-- The text of a fault. -/
def EmptySide.message : EmptySide → String
  | width => "Zero width not allowed"
  | height => "Zero height not allowed"

/-- The header of a picture. -/
def plainHeader (width height : Nat) : Header := ⟨width, height, 8, .rgba, false⟩

/-- The data of a picture: each row after the name of the rule that predicts nothing. -/
def plainRows {width height : Nat} (r : Raster width height) : Bytes :=
  (List.finRange height).flatMap fun y => 0 :: (r.row y).flatMap Pixel.bytes

/-- The image of a picture that is not empty. -/
def image {width height : Nat} (r : Raster width height) : Bytes :=
  signature ++ chunk headerKind (plainHeader width height).bytes ++
    chunk dataKind (Deflate.storedStream (plainRows r)) ++ chunk endKind []

/-- A picture as an image, unless it is empty. -/
def encode {width height : Nat} (r : Raster width height) : Except EmptySide Bytes :=
  if width = 0 then .error .width
  else if height = 0 then .error .height
  else .ok (image r)

end ReleaseArtifacts.Png
