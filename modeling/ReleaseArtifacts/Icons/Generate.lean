import ReleaseArtifacts.Icons.Resize
import ReleaseArtifacts.Icons.Set
import ReleaseArtifacts.Release
import ReleaseArtifacts.Repository

namespace ReleaseArtifacts

/-!
# Generating icons

* `IconReport` — what was generated.
* `IconSet.generate` — makes the icons of a set from its master icon.  All of them are made before
  the first one is written.
* `generateIcons` — the icons of the application.
-/

/-- What was generated. -/
structure IconReport where
  source : String
  outputs : List String
deriving DecidableEq, Repr

/-- How many icons were generated. -/
def IconReport.count (r : IconReport) : Nat := r.outputs.length

/-- Makes icons of several sizes from the contents of a master icon, of which the path is known. -/
abbrev Resizer := (origin : String) → (source : Bytes) → (sizes : List Nat) →
  Except Fault (List Icon)

variable {m : Type → Type} [Monad m] [Storage m]

namespace IconSet

/-- Writes one icon and gives its path. -/
def writeIcon (set : IconSet) (r : Repository) (icon : Icon) : ExceptT Fault m String := do
  let path := set.outputPath icon.size
  r.write path icon.image
  return r.resolve path

/-- Makes the icons of a set from its master icon. -/
def generate (set : IconSet) (r : Repository) (resizer : Resizer) :
    ExceptT Fault m IconReport := do
  let origin := r.resolve source
  if !(← (r.hasFile source : m Bool)) then throw (.iconSourceMissing origin)
  let master ← r.read source
  let icons ← liftExcept (resizer origin master iconSizes)
  let outputs ← icons.mapM (set.writeIcon r)
  return ⟨origin, outputs⟩
where
  /-- A step without effects. -/
  liftExcept {α : Type} (step : Except Fault α) : ExceptT Fault m α := ExceptT.mk (pure step)

end IconSet

/-- The icons of the application. -/
def generateIcons (r : Repository) : ExceptT Fault m IconReport :=
  IconSet.generate ⟨applicationName⟩ r resizeIcons

/-- The icons of the application in the current folder. -/
def generateIconsHere : ExceptT Fault m IconReport := do
  generateIcons (← Repository.current)

end ReleaseArtifacts
