import ReleaseArtifacts.Png.Header

namespace ReleaseArtifacts.Png

/-!
# Interlacing

An image is sent in passes, each of which holds the pixels of a grid.

* `Pass` — a grid.
* `Header.passes` — the passes of an image: one, or seven that get finer and finer.
-/

/-- A grid: the column and the row of its first pixel, and the steps to the next ones. -/
structure Pass where
  column : Nat
  row : Nat
  columnStep : Nat
  rowStep : Nat
deriving DecidableEq, Repr

namespace Pass

/-- How many of `length` places are on a grid that begins at `first`. -/
def count (length first step : Nat) : Nat := (length - first + (step - 1)) / step

/-- How many columns of an image a pass has. -/
def width (p : Pass) (h : Header) : Nat := count h.width p.column p.columnStep

/-- How many rows of an image a pass has; one without columns has none. -/
def height (p : Pass) (h : Header) : Nat :=
  if p.width h = 0 then 0 else count h.height p.row p.rowStep

/-- Whether a place of the image is on the grid. -/
def covers (p : Pass) (x y : Nat) : Bool :=
  p.column ≤ x ∧ p.row ≤ y ∧ (x - p.column) % p.columnStep = 0 ∧ (y - p.row) % p.rowStep = 0

end Pass

/-- The single pass of a plain image. -/
def wholePass : Pass := ⟨0, 0, 1, 1⟩

/-- The passes of an interlaced image. -/
def finerPasses : List Pass :=
  [⟨0, 0, 8, 8⟩, ⟨4, 0, 8, 8⟩, ⟨0, 4, 4, 8⟩, ⟨2, 0, 4, 4⟩, ⟨0, 2, 2, 4⟩, ⟨1, 0, 2, 2⟩, ⟨0, 1, 1, 2⟩]

/-- The passes of an image. -/
def Header.passes (h : Header) : List Pass := if h.interlaced then finerPasses else [wholePass]

end ReleaseArtifacts.Png
