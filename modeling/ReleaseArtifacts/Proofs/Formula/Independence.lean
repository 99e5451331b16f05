import ReleaseArtifacts.Proofs.Formula.Writing
import ReleaseArtifacts.Proofs.Template.BuildingAlike
import ReleaseArtifacts.Proofs.Template.RunningAlike

namespace ReleaseArtifacts.Formula

/-!
# What a template does not name

A template knows the package and the release by their names only.  Where a name does not stand in
any tag, what it stands for does not show in the formula, nor in how rendering breaks down.

* `wordsOf source` — the words in the tags of a template.
* `formulaFrom_congr` — a template cannot tell two packages and releases apart that differ in names
  it does not use.
* `formulaFrom_independent` — the same for the names of the release and for those of the package.
-/

open Template (Likeness Statement Tag tagsOf)

/-- The words in the tags of a template, keywords and fields among them. -/
def wordsOf (source : String) : List String := (tagsOf source).flatMap Tag.words

/-- The names that stand for the package or for what comes from it. -/
def packageNames : List String := ["formula", "build_invocation", "name_width"]

/-! ### Names that are not used -/

variable {source : String} {hidden : List String}

/-- A template that does not use some names is like itself in a likeness without them. -/
theorem tags_alike (h : ∀ x ∈ hidden, x ∉ wordsOf source) :
    ∀ t ∈ tagsOf source, t.Alike (.still (· ∉ hidden) True) t := by
  intro t ht
  refine Tag.alike_still (fun w hw hhidden => ?_) fun _ => trivial
  exact h w hhidden (List.mem_flatMap.mpr ⟨t, ht, hw⟩)

/-- **Names that no tag uses do not matter.**  If the globals of two packages and releases agree on
    all other names, a template gives the same formula for both, or breaks down in the same way. -/
theorem formulaFrom_congr (h : ∀ x ∈ hidden, x ∉ wordsOf source) {p p' : Profile} {r r' : Release}
    (hglobals : ∀ x, x ∉ hidden → (globals p' r').lookup x = (globals p r).lookup x) :
    formulaFrom source p' r' = formulaFrom source p r := by
  cases hparse : Statement.parse source with
  | none => rw [formulaFrom_of_malformed hparse, formulaFrom_of_malformed hparse]
  | some statements =>
    have halike := Template.parse_alike hparse (tags_alike h)
    have hrender := Template.render_alike halike hglobals
    -- No line is moved, so that the stops are the same as well.
    rw [Likeness.stop_still] at hrender
    rw [formulaFrom_of_parse hparse, formulaFrom_of_parse hparse, hrender]
    cases Template.render statements (globals p r) <;> rfl

/-! ### The release and the package -/

theorem lookup_globals_release {x : String} (hx : x ∉ ["release"]) (p : Profile) (r r' : Release) :
    (globals p r').lookup x = (globals p r).lookup x := by
  have hne : (x == "release") = false := by simpa using hx
  simp only [globals, List.lookup_cons, hne]

theorem lookup_globals_package {x : String} (hx : x ∉ packageNames) (p p' : Profile) (r : Release) :
    (globals p' r).lookup x = (globals p r).lookup x := by
  simp only [packageNames, List.mem_cons, List.not_mem_nil, or_false, not_or] at hx
  have hformula : (x == "formula") = false := by simpa using hx.1
  have hbuild : (x == "build_invocation") = false := by simpa using hx.2.1
  have hwidth : (x == "name_width") = false := by simpa using hx.2.2
  simp only [globals, List.lookup_cons, hformula, hbuild, hwidth]

/-- **Noninterference.**  A template with no mention of the release in its tags gives the same for
    any two releases: the same formula, the same fault or the same end of the run.  One with no
    mention of the package gives the same for any two packages. -/
theorem formulaFrom_independent (source : String) :
    ("release" ∉ wordsOf source →
      ∀ p r r', formulaFrom source p r = formulaFrom source p r') ∧
    ((∀ x ∈ packageNames, x ∉ wordsOf source) →
      ∀ p p' r, formulaFrom source p r = formulaFrom source p' r) := by
  constructor
  · intro h p r r'
    have hhidden : ∀ x ∈ ["release"], x ∉ wordsOf source := by simpa using h
    exact formulaFrom_congr hhidden fun x hx => lookup_globals_release hx p r' r
  · intro h p p' r
    exact formulaFrom_congr h fun x hx => lookup_globals_package hx p' p r

/-- A template for the launchers of a package. -/
def launcherNotes : String :=
  "\x7b% for l in formula.launchers if l.pass_db %\x7d\n" ++
    "\x7b\x7b loop.index \x7d\x7d. \x7b\x7b l.name | ljust(name_width) \x7d\x7d\n" ++
    "\x7b% else %\x7d\x7b# no release here #\x7dnone\n\x7b% endfor %\x7d\n"

/-- A template for a release. -/
def releaseNotes : String :=
  "\x7b% set v = release.version %\x7d\n" ++
    "\x7b\x7b v if \"formula\" in release.url else sh_default(\"V\", v) \x7d\x7d\n"

theorem formulaFrom_independent_notes :
    "release" ∉ wordsOf launcherNotes ∧
    (∀ p r r', formulaFrom launcherNotes p r = formulaFrom launcherNotes p r') ∧
    (∀ x ∈ packageNames, x ∉ wordsOf releaseNotes) ∧
    (∀ p p' r, formulaFrom releaseNotes p r = formulaFrom releaseNotes p' r) := by
  have hrelease : "release" ∉ wordsOf launcherNotes := by decide_cbv
  have hpackage : ∀ x ∈ packageNames, x ∉ wordsOf releaseNotes := by decide_cbv
  exact ⟨hrelease, (formulaFrom_independent launcherNotes).1 hrelease, hpackage,
    (formulaFrom_independent releaseNotes).2 hpackage⟩

end ReleaseArtifacts.Formula
