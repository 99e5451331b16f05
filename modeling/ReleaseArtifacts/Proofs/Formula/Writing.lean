import ReleaseArtifacts.Formula.Write
import ReleaseArtifacts.Proofs.FileSystem.Tasks
import ReleaseArtifacts.Proofs.Formula.Rendering

namespace ReleaseArtifacts.Formula

/-!
# Writing formulas

A formula is complete before anything is written, whatever engine renders it.

* `Engine` — how templates become renderers; `Renderer.engine` is the engine of the library.
* `writeFrom` — reads a template, renders a formula with it, and writes it.
* `formulaWith`, `formulaFrom` — the formula alone, from any engine and from that of the library.
* `writeFrom_of_error` — without a formula, no step of the task uses the files at all.
* `writeFrom_allOrNothing` — so the file system is what it was, or what writing the formula makes
  of it.
-/

open Template (Statement)

variable {source output : String} {r : Repository} {p : Profile} {release : Release}
  {cause : Breakdown} {formula : String} {s : FileSystem}

/-! ### Formulas from templates -/

/-- How templates become renderers: reading a template breaks down, or gives a renderer. -/
abbrev Engine := String → Except Breakdown FormulaRenderer

/-- The engine of the library. -/
def Renderer.engine : Engine := fun source => (Renderer.read source).map Renderer.formula

/-- The formula that an engine makes of a template, or how reading the template or rendering it
    broke down. -/
def formulaWith (engine : Engine) (source : String) (p : Profile) (release : Release) :
    Except Breakdown String := do
  let render ← engine source
  render p release

/-- The same with the engine of the library. -/
def formulaFrom (source : String) (p : Profile) (release : Release) : Except Breakdown String := do
  let renderer ← Renderer.read source
  renderer.formula p release

theorem formulaWith_engine (source : String) (p : Profile) (release : Release) :
    formulaWith Renderer.engine source p release = formulaFrom source p release := by
  rw [formulaWith, Renderer.engine, formulaFrom]
  cases Renderer.read source <;> rfl

/-- A template with malformed tags gives no formula. -/
theorem formulaFrom_of_malformed (h : Statement.parse source = none) (p : Profile)
    (release : Release) : formulaFrom source p release = .error (.fault malformedTemplate) := by
  rw [formulaFrom, Renderer.read, Renderer.ofTemplate?, h]
  rfl

/-- A template with well-formed tags gives what its statements print. -/
theorem formulaFrom_of_parse {statements : List Statement}
    (h : Statement.parse source = some statements) (p : Profile) (release : Release) :
    formulaFrom source p release =
      (Template.render statements (globals p release)).mapError breakdown := by
  rw [formulaFrom, Renderer.read, Renderer.ofTemplate?, h]
  rfl

section Tasks

variable {m : Type → Type} [Monad m]

/-! ### Steps without effects -/

section Settled

variable [LawfulMonad m]

/-- Steps without effects, one after the other, are a step without effects. -/
theorem settled_bind {α β : Type} (x : Except Breakdown α) (f : α → Except Breakdown β) :
    (settled (x >>= f) : ExceptT Breakdown m β) = settled x >>= fun a => settled (f a) := by
  apply ExceptT.ext
  rw [ExceptT.run_bind]
  show pure (x >>= f) = pure x >>= _
  rw [pure_bind]
  cases x <;> rfl

/-- A step without effects that breaks down is the end of a task. -/
theorem settled_error_bind {α β : Type} (cause : Breakdown) (f : α → ExceptT Breakdown m β) :
    (settled (.error cause) >>= f : ExceptT Breakdown m β) = settled (.error cause) := by
  apply ExceptT.ext
  rw [ExceptT.run_bind]
  show pure (Except.error cause) >>= _ = _
  rw [pure_bind]
  rfl

/-- A step without effects that does not break down gives its value to what comes after it. -/
theorem settled_ok_bind {α β : Type} (a : α) (f : α → ExceptT Breakdown m β) :
    (settled (.ok a) >>= f : ExceptT Breakdown m β) = f a := pure_bind a f

end Settled

/-! ### On any storage -/

variable [Storage m]

/-- Reads a template, renders a formula with it, and writes it. -/
def writeFrom (engine : Engine) (source : String) (r : Repository) (p : Profile)
    (release : Release) (output : String) : ExceptT Breakdown m String := do
  let render ← settled (engine source)
  writeFormula render r p release output

variable [LawfulMonad m] {engine : Engine}

/-- The formula is complete before anything is written. -/
theorem writeFrom_eq (engine : Engine) (source : String) (r : Repository) (p : Profile)
    (release : Release) (output : String) :
    (writeFrom engine source r p release output : ExceptT Breakdown m String) = do
      let formula ← settled (formulaWith engine source p release)
      reporting (r.writeText output formula)
      return r.resolve output := by
  rw [formulaWith, settled_bind, bind_assoc]
  rfl

/-- **Nothing happens without a formula.**  The task uses no file of whatever storage it runs on. -/
theorem writeFrom_of_error (h : formulaWith engine source p release = .error cause)
    (r : Repository) (output : String) :
    (writeFrom engine source r p release output : ExceptT Breakdown m String) =
      settled (.error cause) := by
  rw [writeFrom_eq, h, settled_error_bind]

/-- With a formula all that happens is that it is written. -/
theorem writeFrom_of_ok (h : formulaWith engine source p release = .ok formula) (r : Repository)
    (output : String) :
    (writeFrom engine source r p release output : ExceptT Breakdown m String) = do
      reporting (r.write output formula.toUTF8.toList)
      return r.resolve output := by
  rw [writeFrom_eq, h, settled_ok_bind]
  rfl

end Tasks

/-! ### On a file system -/

theorem runOn_reporting {α : Type} (step : ExceptT Fault (StateM FileSystem) α) :
    runOn (reporting step) s = ((runOn step s).1.mapError .fault, (runOn step s).2) := rfl

/-- What comes of the formula, or of how it broke down, and of the file system. -/
def outcome (formula : Except Breakdown String) (r : Repository) (output : String)
    (s : FileSystem) : Except Breakdown String × FileSystem :=
  match formula with
  | .error cause => (.error cause, s)
  | .ok formula =>
    match runOn (r.write output formula.toUTF8.toList) s with
    | (.ok (), s') => (.ok (r.resolve output), s')
    | (.error fault, s') => (.error (.fault fault), s')

/-- **The task is settled by its formula,** whatever engine makes it. -/
theorem runOn_writeFrom (engine : Engine) (source : String) (r : Repository) (p : Profile)
    (release : Release) (output : String) (s : FileSystem) :
    runOn (writeFrom engine source r p release output) s =
      outcome (formulaWith engine source p release) r output s := by
  cases hformula : formulaWith engine source p release with
  | error cause =>
    rw [writeFrom_of_error hformula]
    rfl
  | ok formula =>
    rw [writeFrom_of_ok hformula, runOn_bind, runOn_reporting]
    dsimp only [outcome]
    rcases runOn (r.write output formula.toUTF8.toList) s with ⟨fault | ⟨⟩, s'⟩ <;> rfl

/-- **A formula is written completely or not at all,** whatever engine renders it: if the engine
    cannot read the template, or if rendering it breaks down in whatever way and wherever in the
    template, then this is what comes out, and the file system is what it was.  Otherwise the
    outcome and the file system are those of writing the bytes of the whole formula, with the path of
    the file where that succeeds.  With the engine of the library a template cannot be read if its
    tags are malformed, and rendering it breaks down where one of its statements does. -/
theorem writeFrom_allOrNothing (source : String) (r : Repository) (p : Profile) (release : Release)
    (output : String) (s : FileSystem) :
    (∀ engine : Engine,
      let result := runOn (writeFrom engine source r p release output) s;
      (∀ cause, engine source = .error cause → result = (.error cause, s)) ∧
      ∀ render, engine source = .ok render →
        (∀ cause, render p release = .error cause → result = (.error cause, s)) ∧
        ∀ formula, render p release = .ok formula →
          result =
            match runOn (r.write output formula.toUTF8.toList) s with
            | (.ok (), s') => (.ok (r.resolve output), s')
            | (.error fault, s') => (.error (.fault fault), s')) ∧
    (let result := runOn (writeFrom Renderer.engine source r p release output) s;
      (Statement.parse source = none → result = (.error (.fault malformedTemplate), s)) ∧
      ∀ statements, Statement.parse source = some statements →
        (∀ stop, Template.render statements (globals p release) = .error stop →
          result = (.error (breakdown stop), s)) ∧
        ∀ formula, Template.render statements (globals p release) = .ok formula →
          result =
            match runOn (r.write output formula.toUTF8.toList) s with
            | (.ok (), s') => (.ok (r.resolve output), s')
            | (.error fault, s') => (.error (.fault fault), s')) := by
  -- Of the engine and the template no more counts than the formula, or how it broke down.
  constructor
  · intro engine
    dsimp only
    rw [runOn_writeFrom, formulaWith]
    refine ⟨fun cause hread => ?_, fun render hread => ⟨fun cause hrender => ?_,
      fun formula hrender => ?_⟩⟩
    · rw [hread]
      rfl
    · rw [hread, ok_bind, hrender]
      rfl
    · rw [hread, ok_bind, hrender]
      rfl
  · dsimp only
    rw [runOn_writeFrom, formulaWith_engine]
    refine ⟨fun hparse => ?_, fun statements hparse => ⟨fun stop hrender => ?_,
      fun formula hrender => ?_⟩⟩
    · rw [formulaFrom_of_malformed hparse]
      rfl
    · rw [formulaFrom_of_parse hparse, hrender]
      rfl
    · rw [formulaFrom_of_parse hparse, hrender]
      rfl

/-- A template that breaks down at the last launcher of the last binary, and not before. -/
def lateNotes : String :=
  "\x7b% for b in formula.binaries %\x7d\n\x7b\x7b b \x7d\x7d:\n" ++
    "\x7b% for l in formula.launchers %\x7d\n" ++
    "- \x7b\x7b release.tag if loop.last and l.binary == b else l.name \x7d\x7d\n" ++
    "\x7b% endfor %\x7d\n\x7b% endfor %\x7d\n"

/-- What it says. -/
def lateStatements : List Statement :=
  let launcher (field : String) : Template.Expr := .field (.name 4 "l") field
  let matching : Template.Expr :=
    .and (.field (.name 4 "loop") "last") (.binary .equal (launcher "binary") (.name 4 "b"))
  [.text "",
    .loop 1 "b" (.field (.name 1 "formula") "binaries") none
      [.text "", .output 2 (.name 2 "b"), .text ":\n",
        .loop 3 "l" (.field (.name 3 "formula") "launchers") none
          [.text "- ",
            .output 4 (.choice (.field (.name 4 "release") "tag") matching (launcher "name")),
            .text "\n"]
          [],
        .text ""]
      [],
    .text ""]

theorem parse_lateNotes : Statement.parse lateNotes = some lateStatements := by
  conv => lhs; cbv
  rfl

/-- An engine without tags: a template is the formula of every package that has binaries. -/
def verbatimEngine : Engine := fun source =>
  if source = "" then .error (.fault malformedTemplate)
  else .ok fun p _ => if p.binaries = [] then .error .aborted else .ok source

/-- Two engines on one file system.  The engine of the library breaks down after most of the formula
    is printed, and succeeds for the same package without launchers. -/
theorem writeFrom_allOrNothing_lateNotes :
    let s : FileSystem := ⟨.empty, some []⟩
    let task engine source p :=
      runOn (writeFrom engine source ⟨"/tap"⟩ p firstRelease "Formula/box.rb") s
    let written formula :=
      match runOn (Repository.write ⟨"/tap"⟩ "Formula/box.rb" (String.toUTF8 formula).toList) s with
      | (.ok (), s') => (.ok "/tap/Formula/box.rb", s')
      | (.error fault, s') => (.error (.fault fault), s')
    task Renderer.engine lateNotes Profile.application =
        (.error (.fault (.template templateName "undefined value (in formula.rb.j2:4)")), s) ∧
      task Renderer.engine lateNotes { Profile.application with launchers := [] } =
        written "butterfly-bot:\nbutterfly-botd:\n" ∧
      task verbatimEngine "" Profile.application = (.error (.fault malformedTemplate), s) ∧
      task verbatimEngine "box" { Profile.application with binaries := [] } =
        (.error .aborted, s) ∧
      task verbatimEngine "box" Profile.application = written "box" := by
  intro s task written
  have hrun source p := writeFrom_allOrNothing source ⟨"/tap"⟩ p firstRelease "Formula/box.rb" s
  have hverbatim : verbatimEngine "box" =
      .ok fun p _ => if p.binaries = [] then .error .aborted else .ok "box" := rfl
  -- In the last round of both loops the condition holds, and the release has no tag.
  have hlate : Template.render lateStatements (globals Profile.application firstRelease) =
      .error ⟨4, .undefinedValue⟩ := by cbv
  have hshort : Template.render lateStatements
      (globals { Profile.application with launchers := [] } firstRelease) =
      .ok "butterfly-bot:\nbutterfly-botd:\n" := by cbv
  refine ⟨?_, ?_, ?_, ?_, ?_⟩
  · exact ((hrun lateNotes _).2.2 _ parse_lateNotes).1 _ hlate
  · exact ((hrun lateNotes _).2.2 _ parse_lateNotes).2 _ hshort
  · exact ((hrun "" _).1 verbatimEngine).1 _ rfl
  · exact (((hrun "box" _).1 verbatimEngine).2 _ hverbatim).1 _ rfl
  · exact (((hrun "box" _).1 verbatimEngine).2 _ hverbatim).2 _ rfl

end ReleaseArtifacts.Formula
