import ReleaseArtifacts.Formula.Render
import ReleaseArtifacts.Profile.Read
import ReleaseArtifacts.Repository

namespace ReleaseArtifacts.Formula

/-!
# Writing formulas

* `text` — the formula of a release of the application.
* `FormulaRenderer` — whatever renders formulas; a template that has been read is one.
* `writeFormula` — renders a formula and then writes it.
* `write` — writes the formula of a release of the application.
-/

/-- The profile of the application, or how reading it broke down. -/
def packageProfile : Except Breakdown Profile :=
  Profile.package.mapError fun f => .fault f.toFault

/-- The formula of a release of the application. -/
def text (release : Release) : Except Breakdown String := do
  let profile ← packageProfile
  let renderer ← packageRenderer
  renderer.formula profile release

/-- Whatever renders the formula of a package and a release: it gives the whole text, or it breaks
    down. -/
abbrev FormulaRenderer := Profile → Release → Except Breakdown String

variable {m : Type → Type} [Monad m] [Storage m]

/-- A step without effects. -/
def settled {α : Type} (step : Except Breakdown α) : ExceptT Breakdown m α := ExceptT.mk (pure step)

/-- A step that may have a fault. -/
def reporting {α : Type} (step : ExceptT Fault m α) : ExceptT Breakdown m α :=
  step.adapt Breakdown.fault

/-- Renders a formula, writes it, and gives the path of the file.  Nothing is written before the
    formula is complete. -/
def writeFormula (render : FormulaRenderer) (r : Repository) (profile : Profile)
    (release : Release) (output : String) : ExceptT Breakdown m String := do
  let formula ← settled (render profile release)
  reporting (r.writeText output formula)
  return r.resolve output

/-- Renders a formula with a template that has been read, and writes it. -/
def Renderer.writeFormula (renderer : Renderer) (r : Repository) (profile : Profile)
    (release : Release) (output : String) : ExceptT Breakdown m String :=
  Formula.writeFormula renderer.formula r profile release output

/-- Writes the formula of a release of the application. -/
def write (r : Repository) (release : Release) (output : String) : ExceptT Breakdown m String := do
  let profile ← settled packageProfile
  let renderer ← settled packageRenderer
  renderer.writeFormula r profile release output

/-- Writes the formula of a release of the application in the current folder. -/
def writeHere (release : Release) (output : String) : ExceptT Breakdown m String := do
  write (← reporting Repository.current) release output

end ReleaseArtifacts.Formula
