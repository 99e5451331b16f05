import ReleaseArtifacts.Proofs.Formula.Rendering
import ReleaseArtifacts.Proofs.Template.Literal

namespace ReleaseArtifacts.Formula

/-!
# Values between literal text

A template that names the fields of the release between literal text gives the literal text with the
values in their places, whatever the values are.

* `ReleaseField` — a field of a release, with its tag and its value.
* `Interpolation` — literal texts with a field after each of them, and a literal text at the end:
  `Interpolation.template` is the template, `Interpolation.filled` the text with the values.
* `Interpolation.rendered` — the template is read, and rendering it gives this text.
-/

open Template (EndsClear Expr Inert OutputTag Prints Scope Segment Statement follow path
  statementsOf)

/-! ### Fields of a release -/

/-- A field of a release. -/
inductive ReleaseField
  | version | url | sha256
deriving DecidableEq, Repr

namespace ReleaseField

/-- The tag that prints a field. -/
def tag : ReleaseField → String
  | version => "\x7b\x7b release.version \x7d\x7d"
  | url => "\x7b\x7b release.url \x7d\x7d"
  | sha256 => "\x7b\x7b release.sha256 \x7d\x7d"

/-- The value of a field. -/
def value (r : Release) : ReleaseField → String
  | version => r.version
  | url => r.url
  | sha256 => r.sha256

/-- The name of a field in templates. -/
def name : ReleaseField → String
  | version => "version"
  | url => "url"
  | sha256 => "sha256"

/-- What stands between the braces of a tag. -/
def inner : ReleaseField → String
  | version => " release.version "
  | url => " release.url "
  | sha256 => " release.sha256 "

/-- The expression of a tag. -/
def expr (f : ReleaseField) (line : Nat) : Expr := path line "release" [f.name]

theorem lexemes_inner (f : ReleaseField) (line : Nat) :
    Template.lexemes line f.inner.toList =
      some [⟨.word "release", line⟩, ⟨.symbol '.', line⟩, ⟨.word f.name, line⟩] := by
  cases f <;> rfl

theorem wholeExpr_field (field : String) (line : Nat) :
    Template.Keyword.wholeExpr
        [⟨.word "release", line⟩, ⟨.symbol '.', line⟩, ⟨.word field, line⟩] =
      some (path line "release" [field]) := by
  conv => lhs; cbv
  rfl

/-- The tag of a field takes its text, and reads as the name of the field. -/
def outputTag (f : ReleaseField) : OutputTag where
  source := f.tag.toList
  body := f.inner.toList
  expr := f.expr
  scanned := by
    intro line done s
    cases f <;> rfl
  read := by
    intro line
    rw [lexemes_inner, Option.bind_some, wholeExpr_field, expr]

/-- The value of a field is printed as it is. -/
theorem eval_expr {p : Profile} {r : Release} {s : Scope} (h : Shows p r s) (f : ReleaseField)
    (line n : Nat) : (f.expr n).eval s line = .ok (.text (f.value r)) := by
  cases f <;> exact h.eval_release rfl

end ReleaseField

/-! ### Literal text with fields -/

/-- Literal texts with a field after each of them, and a literal text at the end. -/
structure Interpolation where
  parts : List (String × ReleaseField)
  last : String

namespace Interpolation

/-- The template: the tags of the fields stand between the literal texts. -/
def template (t : Interpolation) : String :=
  String.join (t.parts.map fun part => part.1 ++ part.2.tag) ++ t.last

/-- The text for a release: its values stand between the literal texts. -/
def filled (t : Interpolation) (r : Release) : String :=
  String.join (t.parts.map fun part => part.1 ++ part.2.value r) ++ t.last

/-- No tag opens inside a literal text, nor with a brace at the end of one before a tag. -/
structure Plain (t : Interpolation) : Prop where
  inert : ∀ part ∈ t.parts, Inert part.1.toList
  ends : ∀ part ∈ t.parts, EndsClear part.1.toList
  last : Inert t.last.toList

/-- A literal text and the tag of a field as a segment of a template. -/
def segment (part : String × ReleaseField) : Segment := ⟨part.1.toList, part.2.outputTag⟩

theorem toList_template (t : Interpolation) :
    t.template.toList = (t.parts.map segment).flatMap Segment.source ++ t.last.toList := by
  rw [template, String.toList_append, String.toList_join, List.flatMap_map, List.flatMap_map]
  simp only [String.toList_append]
  rfl

/-- **Literal text is inert, and values are not read again.**  A template that names fields of the
    release between literal text is read without a fault, and rendering it gives the literal text
    with the values, character by character. -/
theorem renders_filled (t : Interpolation) (p : Profile) (r : Release) (h : t.Plain) :
    ∃ renderer, Renderer.read t.template = .ok renderer ∧
      renderer.formula p r = .ok (t.filled r) := by
  have hclear : ∀ s ∈ t.parts.map segment, s.Clear := by
    rintro s hs
    obtain ⟨part, hpart, rfl⟩ := List.mem_map.mp hs
    exact ⟨h.inert part hpart, h.ends part hpart⟩
  have hread := Template.parse_segments t.toList_template hclear h.last
  refine ⟨⟨_⟩, read_eq_ok hread, ?_⟩
  apply formula_of_prints
  have heval : ∀ part ∈ t.parts, ∀ line n,
      ((segment part).tag.expr n).eval (Scope.ofGlobals (globals p r)) line =
        .ok (.text (part.2.value r)) :=
    fun part _ line n => part.2.eval_expr (Shows.ofGlobals p r) line n
  refine (Prints.segments heval t.last.toList 1).of_eq ?_
  simp only [filled, segment, String.ofList_toList]

/-- Literal text with marks of other languages, blanks, and line ends of two kinds. -/
def marks : Interpolation where
  parts :=
    [
      ("\n\r\n  #\x7bbin\x7d $\x7bHOME\x7d ", .version),
      ("\x7d\x7d %\x7d #\x7d \x7b \r", .url),
      ("", .sha256)
    ]
  last := "\n\n\x7b"

theorem renders_filled_application : marks.Plain ∧
    ∃ renderer, Renderer.read marks.template = .ok renderer ∧
      renderer.formula Profile.application braceRelease = .ok (marks.filled braceRelease) := by
  have hplain : marks.Plain := ⟨by decide, by decide, by decide⟩
  exact ⟨hplain, renders_filled marks Profile.application braceRelease hplain⟩

end Interpolation

end ReleaseArtifacts.Formula
