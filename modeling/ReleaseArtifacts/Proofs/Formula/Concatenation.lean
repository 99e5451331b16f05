import ReleaseArtifacts.Proofs.Formula.Rendering
import ReleaseArtifacts.Proofs.Formula.Writing
import ReleaseArtifacts.Proofs.Template.Joining

namespace ReleaseArtifacts.Formula

/-!
# Templates one after the other

A template that ends in a line feed and assigns no names can stand before any other one: the formula
of the two is the formula of the first and then the formula of the second.

* `formulaFrom_eq_ok_iff` — what it takes for a template to give a formula.
* `formulaFrom_append` — the formula of two templates.
-/

open Template (EndsLine Statement tagsOf)

variable {p : Profile} {r : Release} {source a b out outA outB : String}

/-- A template gives a formula if its tags are well-formed and its statements print it. -/
theorem formulaFrom_eq_ok_iff :
    formulaFrom source p r = .ok out ↔
      ∃ statements, Statement.parse source = some statements ∧
        Template.render statements (globals p r) = .ok out := by
  cases hparse : Statement.parse source with
  | none => simp [formulaFrom_of_malformed hparse]
  | some statements =>
    rw [formulaFrom_of_parse hparse]
    cases hrender : Template.render statements (globals p r) with
    | error stop => simp [Except.mapError, hrender]
    | ok text => simp [Except.mapError, hrender]

/-- **Rendering goes line by line.**  If a template ends in a line feed and assigns no names, and
    neither it nor the template after it strips blanks by a mark, then the formula of the two is
    the formula of the first followed by the formula of the second. -/
theorem formulaFrom_append (hends : EndsLine a.toList) (hassigns : ∀ t ∈ tagsOf a, ¬ t.Assigns)
    (hunmarked : ∀ t ∈ tagsOf a ++ tagsOf b, t.Unmarked) (ha : formulaFrom a p r = .ok outA)
    (hb : formulaFrom b p r = .ok outB) : formulaFrom (a ++ b) p r = .ok (outA ++ outB) := by
  obtain ⟨_, hreadA, hprintA⟩ := formulaFrom_eq_ok_iff.mp ha
  obtain ⟨_, hreadB, hprintB⟩ := formulaFrom_eq_ok_iff.mp hb
  exact formulaFrom_eq_ok_iff.mpr
    (Template.render_append hreadA hreadB hends hassigns hunmarked hprintA hprintB)

/-- A template with blocks in each other, a verbatim section and a comment. -/
def binaryNotes : String :=
  "\x7b% for b in formula.binaries %\x7d\n" ++
    "  \x7b% if loop.first %\x7d\x7b% raw %\x7d\x7b\x7b b \x7d\x7d\x7b% endraw %\x7d\n" ++
    "  \x7b% endif %\x7d\n\x7b# a binary #\x7d\n- \x7b\x7b b \x7d\x7d\n\x7b% endfor %\x7d\n"

/-- A template that begins with blanks and assigns a name. -/
def versionNote : String :=
  "  \x7b% set v = release.version %\x7d\nVersion \x7b\x7b v \x7d\x7d"

theorem formulaFrom_append_notes :
    EndsLine binaryNotes.toList ∧ (∀ t ∈ tagsOf binaryNotes, ¬ t.Assigns) ∧
    (∀ t ∈ tagsOf binaryNotes ++ tagsOf versionNote, t.Unmarked) ∧
    formulaFrom (binaryNotes ++ versionNote) Profile.application braceRelease =
      .ok ("\x7b\x7b b \x7d\x7d- butterfly-bot\n- butterfly-botd\n" ++
        "Version \x7b\x7b 1 \x7d\x7d") := by
  have hends : EndsLine binaryNotes.toList := by decide_cbv
  have hassigns : ∀ t ∈ tagsOf binaryNotes, ¬ t.Assigns := by decide +kernel
  have hunmarked : ∀ t ∈ tagsOf binaryNotes ++ tagsOf versionNote, t.Unmarked := by decide +kernel
  have hfirst : formulaFrom binaryNotes Profile.application braceRelease =
      .ok "\x7b\x7b b \x7d\x7d- butterfly-bot\n- butterfly-botd\n" := by cbv
  have hsecond : formulaFrom versionNote Profile.application braceRelease =
      .ok "Version \x7b\x7b 1 \x7d\x7d" := by cbv
  exact ⟨hends, hassigns, hunmarked,
    formulaFrom_append hends hassigns hunmarked hfirst hsecond⟩

end ReleaseArtifacts.Formula
