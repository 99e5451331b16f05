namespace ReleaseArtifacts.Lanczos

/-!
# The Lanczos window

A row of pixels is stretched or shrunk by weighing, for every new place, the pixels near it.

* `kernel` — how much a pixel counts at a distance from the new place.
* `taps`, `allTaps` — the pixels that count for a new place, and by how much.

Weights are numbers of 32 bits.
-/

/-- The ratio of a circle's circumference to its diameter. -/
def pi : Float32 := 3.14159265358979323846

/-- The sine of `pi * t` over `pi * t`, which is one at zero. -/
def sinc (t : Float32) : Float32 := if t == 0 then 1 else Float32.sin (t * pi) / (t * pi)

/-- Pixels further away than this do not count. -/
def reach : Float32 := 3

/-- How much a pixel counts at a distance. -/
def kernel (distance : Float32) : Float32 :=
  if distance.abs < reach then sinc distance * sinc (distance / reach) else 0

/-- The pixels that count for a new place: the first one, and the weights of it and those after
    it. -/
structure Taps where
  first : Nat
  weights : List Float32

/-- A number as a place of `count` places: those before the first are the first, those after the
    last are the last. -/
def clampedPlace (x : Float32) (low count : Nat) : Nat :=
  if x < 0 then low else max low (min x.toUInt64.toNat count)

/-- The pixels that count for place `i` when `length` pixels become `newLength`.  Where pixels are
    lost the window is as much wider. -/
def taps (length newLength i : Nat) : Taps :=
  let ratio := length.toFloat32 / newLength.toFloat32
  let scale := if ratio < 1 then 1 else ratio
  let support := reach * scale
  let middle := (i.toFloat32 + 0.5) * ratio
  let first := clampedPlace (middle - support).floor 0 (length - 1)
  let last := clampedPlace (middle + support).ceil (first + 1) length
  let centre := middle - 0.5
  let weights := (List.range' first (last - first)).map fun n =>
    kernel ((n.toFloat32 - centre) / scale)
  let sum := weights.foldl (· + ·) 0
  ⟨first, weights.map (· / sum)⟩

/-- The pixels that count for every place when `length` pixels become `newLength`. -/
def allTaps (length newLength : Nat) : Array Taps :=
  (Array.range newLength).map (taps length newLength)

/-- No pixels count. -/
def noTaps : Taps := ⟨0, []⟩

end ReleaseArtifacts.Lanczos
