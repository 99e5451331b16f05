import ReleaseArtifacts.Deflate.BitSource

namespace ReleaseArtifacts.Png

/-!
# Rows of image data

Every row is written as differences from a prediction, after a byte that names the rule of
prediction.

* `Filter` — the rules of prediction.
* `Filter.restore` — the bytes of a row.
* `rows` — the bytes of several rows.
-/

open Deflate (Halt)

/-- A rule that predicts a byte. -/
inductive Filter
  /-- nothing is predicted -/
  | plain
  /-- as in the pixel to the left -/
  | fromLeft
  /-- as in the pixel above -/
  | fromAbove
  /-- between the two -/
  | fromBoth
  /-- as in the neighbour that a plane through the neighbours comes closest to -/
  | fromClosest
deriving DecidableEq, Repr

namespace Filter

/-- The rule that a byte names. -/
def ofByte? (b : UInt8) : Option Filter :=
  match b.toNat with
  | 0 => some plain
  | 1 => some fromLeft
  | 2 => some fromAbove
  | 3 => some fromBoth
  | 4 => some fromClosest
  | _ => none

/-- The neighbour that the value `left + up - corner` comes closest to; the left one is preferred,
    then the upper one. -/
def closest (left up corner : UInt8) : UInt8 :=
  let target : Int := left.toNat + up.toNat - corner.toNat
  let byLeft := (target - left.toNat).natAbs
  let byUp := (target - up.toNat).natAbs
  let byCorner := (target - corner.toNat).natAbs
  if byLeft ≤ byUp ∧ byLeft ≤ byCorner then left else if byUp ≤ byCorner then up else corner

/-- What is predicted from the neighbours. -/
def predict (f : Filter) (left up corner : UInt8) : UInt8 :=
  match f with
  | plain => 0
  | fromLeft => left
  | fromAbove => up
  | fromBoth => UInt8.ofNat ((left.toNat + up.toNat) / 2)
  | fromClosest => closest left up corner

/-- The bytes of one pixel. -/
def restorePixel (f : Filter) : (raw left up corner : Bytes) → Bytes
  | r :: raw, l :: left, u :: up, c :: corner =>
    (r + f.predict l u c) :: restorePixel f raw left up corner
  | _, _, _, _ => []

/-- The bytes of the pixels after `left`, of which the one above is `corner`. -/
def restorePixels (f : Filter) (left corner : Bytes) : (raw above : List Bytes) → List Bytes
  | r :: raw, u :: above =>
    let pixel := restorePixel f r left u corner
    pixel :: restorePixels f pixel u raw above
  | _, _ => []

end Filter

/-- Groups of `n` values each; what is left over is dropped. -/
def groups {α : Type} (n : Nat) (values : List α) : List (List α) :=
  if _h : n = 0 ∨ (values.take n).length < n then []
  else values.take n :: groups n (values.drop n)
termination_by values.length
decreasing_by simp only [List.length_take, List.length_drop] at *; omega

/-- The bytes of a row of pixels of `step` bytes, below a row that is known. -/
def Filter.restore (f : Filter) (step : Nat) (raw above : Bytes) : Bytes :=
  match f with
  | plain => raw
  | _ =>
    let none := List.replicate step 0
    (f.restorePixels none none (groups step raw) (groups step above)).flatten

/-- The bytes of `n` rows of a known length below a row that is known, and the data after them. -/
def rows (step length : Nat) : (n : Nat) → (above data : Bytes) →
    Except Halt (List Bytes × Bytes)
  | 0, _, data => .ok ([], data)
  | n + 1, above, data =>
    match data.split? (length + 1) with
    | some (name :: raw, rest) => do
      let some filter := Filter.ofByte? name | .error .corrupt
      let row := filter.restore step raw above
      let (others, rest) ← rows step length n row rest
      return (row :: others, rest)
    | _ => .error .cut

end ReleaseArtifacts.Png
