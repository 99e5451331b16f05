import ReleaseArtifacts.Proofs.Formula.Width
import ReleaseArtifacts.Proofs.Lookup
import ReleaseArtifacts.Proofs.Template.Names

namespace ReleaseArtifacts.Formula

/-!
# Names that mean nothing

A name that formula templates do not know is never printed as nothing: the template fails, and the
fault names the line of the first such tag.

* `Mention` — a name in an output tag, alone or as a field of the release or of the package.
* `Mention.Known` — the names that stand for something.
* `MentionText` — literal texts with a mention after each of them, and a literal text at the end.
* `MentionText.reports_first_unknown` — what rendering reports if not all mentions are known.
-/

open Template (EndsClear Expr Inert IsWord OutputTag Prints Scope Segment Statement Stops Value
  dotted nameTag path statementsOf)

/-! ### Mentions -/

/-- Words that mean something to templates without standing for a part of the package or the
    release: keywords, functions, and the names that templates keep for themselves. -/
def spokenFor : List String :=
  Template.keywords ++ Template.functionNames ++ ["range", "dict", "debug", "namespace"] ++
    ["loop", "self", "super"]

/-- A word of a template. -/
abbrev Word := { w : String // IsWord w }

/-- A name in an output tag. -/
inductive Mention
  | name (x : Word) (free : x.1 ∉ spokenFor)
  | release (field : Word)
  | profile (field : Word)

/-- The names that stand for something. -/
def globalNames : List String := ["formula", "release", "build_invocation", "name_width"]

/-- The fields of a release. -/
def releaseFields : List String := ["version", "url", "sha256"]

/-- The fields of a package. -/
def profileFields : List String :=
  ["class_name", "desc", "homepage", "license", "head", "build_dependencies", "binaries", "runtime",
    "launchers", "test"]

/-- In a table without undefined entries the names that mean nothing are those it does not have. -/
theorem lookup_eq_undefined_iff {entries : List (String × Value)}
    (h : ∀ entry ∈ entries, entry.2 ≠ .undefined) (x : String) :
    (entries.lookup x).getD .undefined = .undefined ↔ x ∉ entries.map Prod.fst := by
  constructor
  · intro hundefined hx
    obtain ⟨⟨y, v⟩, hmem, rfl⟩ := List.mem_map.mp hx
    obtain ⟨w, hw⟩ := exists_lookup_of_mem hmem
    rw [hw, Option.getD_some] at hundefined
    exact h _ (mem_of_lookup hw) hundefined
  · intro hx
    rw [lookup_eq_none_of_notMem hx, Option.getD_none]

namespace Mention

/-- The output tag. -/
def tag : Mention → String
  | name x _ => "\x7b\x7b " ++ x.1 ++ " \x7d\x7d"
  | release f => "\x7b\x7b release." ++ f.1 ++ " \x7d\x7d"
  | profile f => "\x7b\x7b formula." ++ f.1 ++ " \x7d\x7d"

/-- The mention stands for a part of the package or the release. -/
def Known : Mention → Prop
  | name x _ => x.1 ∈ globalNames
  | release f => f.1 ∈ releaseFields
  | profile f => f.1 ∈ profileFields

instance : (m : Mention) → Decidable m.Known
  | name x _ => inferInstanceAs (Decidable (x.1 ∈ globalNames))
  | release f => inferInstanceAs (Decidable (f.1 ∈ releaseFields))
  | profile f => inferInstanceAs (Decidable (f.1 ∈ profileFields))

/-- The first word of a mention. -/
def base : Mention → String
  | name x _ => x.1
  | release _ => "release"
  | profile _ => "formula"

/-- The words after the first, each behind a point. -/
def fields : Mention → List String
  | name _ _ => []
  | release f => [f.1]
  | profile f => [f.1]

theorem isWord_base (m : Mention) : IsWord m.base := by
  cases m with
  | name x _ => exact x.2
  | release f => exact ⟨'r', ['e', 'l', 'e', 'a', 's', 'e'], String.toList_ofList, rfl, rfl⟩
  | profile f => exact ⟨'f', ['o', 'r', 'm', 'u', 'l', 'a'], String.toList_ofList, rfl, rfl⟩

theorem isWord_fields (m : Mention) : ∀ f ∈ m.fields, IsWord f := by
  cases m with
  | name x _ => simp [fields]
  | release f => simpa [fields] using f.2
  | profile f => simpa [fields] using f.2

theorem base_notMem_keywords (m : Mention) : m.base ∉ Template.keywords := by
  cases m with
  | name x free =>
    intro h
    have hkeyword : x.1 ∈ Template.keywords := h
    exact free (by simp only [spokenFor, List.mem_append, hkeyword, true_or])
  | release f => exact show "release" ∉ Template.keywords by decide
  | profile f => exact show "formula" ∉ Template.keywords by decide

/-- The tag of a mention, read as a dotted name. -/
def outputTag (m : Mention) : OutputTag :=
  nameTag m.base m.fields m.isWord_base m.base_notMem_keywords m.isWord_fields

theorem toList_tag (m : Mention) : m.tag.toList = m.outputTag.source := by
  cases m <;> simp [tag, outputTag, nameTag, dotted, base, fields]

/-- No tag goes over the end of a line. -/
theorem count_tag (m : Mention) : m.tag.toList.count '\n' = 0 := by
  have hplain := Template.dotted_plain m.isWord_base m.isWord_fields
  have hname : '\n' ∉ dotted m.base m.fields := fun h => hplain _ h (by decide)
  rw [List.count_eq_zero, toList_tag]
  simp [outputTag, nameTag, hname]

/-- What a mention stands for. -/
def value (p : Profile) (r : Release) : Mention → Value
  | name x _ => ((globals p r).lookup x.1).getD .undefined
  | release f => (releaseValue r).field f.1
  | profile f => (profileValue p).field f.1

theorem eval_expr (p : Profile) (r : Release) (m : Mention) (line n : Nat) :
    (m.outputTag.expr n).eval (Scope.ofGlobals (globals p r)) line = .ok (m.value p r) := by
  cases m with
  | name x _ =>
    show Except.ok ((Scope.ofGlobals (globals p r)).find x.1) = _
    rw [Scope.find_ofGlobals]
    rfl
  | release f => rfl
  | profile f => rfl

/-- **What is not known means nothing,** and nothing else does. -/
theorem value_eq_undefined_iff (p : Profile) (r : Release) (m : Mention) :
    m.value p r = .undefined ↔ ¬ m.Known := by
  cases m with
  | name x _ =>
    refine lookup_eq_undefined_iff ?_ x.1
    simp [globals, profileValue, releaseValue, textsValue]
  | release f =>
    refine lookup_eq_undefined_iff ?_ f.1
    simp
  | profile f =>
    refine lookup_eq_undefined_iff ?_ f.1
    simp [headValue, textsValue, runtimeValue, testValue]

end Mention

/-! ### Mentions between literal text -/

/-- Literal texts with a mention after each of them, and a literal text at the end. -/
structure MentionText where
  parts : List (String × Mention)
  last : String

namespace MentionText

/-- The text of some parts. -/
def sourceOf (parts : List (String × Mention)) : String :=
  String.join (parts.map fun part => part.1 ++ part.2.tag)

/-- The template. -/
def template (t : MentionText) : String := sourceOf t.parts ++ t.last

/-- No tag opens inside a literal text, nor with a brace at the end of one before a tag, and the
    lines can be counted. -/
structure Plain (t : MentionText) : Prop where
  inert : ∀ part ∈ t.parts, Inert part.1.toList
  ends : ∀ part ∈ t.parts, EndsClear part.1.toList
  last : Inert t.last.toList
  lines : t.template.toList.count '\n' < 65535

/-- A literal text and a mention as a segment of a template. -/
def segment (part : String × Mention) : Segment := ⟨part.1.toList, part.2.outputTag⟩

theorem toList_template (t : MentionText) :
    t.template.toList = (t.parts.map segment).flatMap Segment.source ++ t.last.toList := by
  rw [template, sourceOf, String.toList_append, String.toList_join, List.flatMap_map,
    List.flatMap_map]
  simp only [String.toList_append, Mention.toList_tag]
  rfl

/-- The line feeds of some parts are those of their literal texts. -/
theorem count_sourceOf (parts : List (String × Mention)) :
    (sourceOf parts).toList.count '\n' =
      (parts.flatMap fun part => (segment part).literal).count '\n' := by
  rw [sourceOf, String.toList_join, List.flatMap_map, List.count_flatMap, List.count_flatMap]
  congr 2
  funext part
  simp [segment, Mention.count_tag]

/-- Of the mentions that are not known there is a first one. -/
theorem exists_first_unknown {parts : List (String × Mention)}
    (h : ∃ part ∈ parts, ¬ part.2.Known) :
    ∃ before part after, parts = before ++ part :: after ∧
      (∀ part ∈ before, part.2.Known) ∧ ¬ part.2.Known := by
  have hfound : (parts.find? fun part => ¬ part.2.Known).isSome := by simpa using h
  obtain ⟨part, hpart⟩ := Option.isSome_iff_exists.mp hfound
  obtain ⟨hfirst, before, after, hparts, hbefore⟩ := List.find?_eq_some_iff_append.mp hpart
  exact ⟨before, part, after, hparts, by simpa using hbefore, by simpa using hfirst⟩

/-- The line of a mention: the line feeds before it are counted. -/
theorem Plain.line_eq {t : MentionText} (h : t.Plain) {before after : List (String × Mention)}
    {literal : String} {mention : Mention} (hparts : t.parts = before ++ (literal, mention) :: after) :
    (before.flatMap (fun part => (segment part).literal) ++ literal.toList).foldl
        Template.lineAfter 1 =
      1 + (sourceOf before ++ literal).toList.count '\n' := by
  have hcount : (before.flatMap (fun part => (segment part).literal) ++ literal.toList).count '\n' =
      (sourceOf before ++ literal).toList.count '\n' := by
    rw [List.count_append, String.toList_append, List.count_append, count_sourceOf]
  have hle : (sourceOf before ++ literal).toList.count '\n' ≤ t.template.toList.count '\n' := by
    have hsplit : t.template = sourceOf before ++ literal ++
        (mention.tag ++ sourceOf after ++ t.last) := by
      rw [template, hparts, sourceOf, sourceOf, sourceOf, List.map_append, List.map_cons,
        String.join_append, String.join_cons]
      simp only [String.append_assoc]
    rw [hsplit, String.toList_append (s := sourceOf before ++ literal), List.count_append]
    exact Nat.le_add_right ..
  have hlines := h.lines
  rw [Template.foldl_lineAfter _ (by decide), hcount, Template.lastLine]
  omega

/-- The fault of a name that means nothing on a line. -/
def unknownName (line : Nat) : Fault :=
  .template templateName
    ("undefined value (in " ++ templateName ++ ":" ++ toString line ++ ")")

/-- **A name that means nothing is reported.**  If some mention in a template is not known, then the
    template is read without a fault, and rendering it fails for every package and release: an
    undefined value is reported on the line of the first such mention, which is found by counting
    the line feeds before it. -/
theorem reports_first_unknown (t : MentionText) (p : Profile) (r : Release) (h : t.Plain)
    (hunknown : ∃ part ∈ t.parts, ¬ part.2.Known) :
    ∃ renderer before literal mention after,
      Renderer.read t.template = .ok renderer ∧
      t.parts = before ++ (literal, mention) :: after ∧
      (∀ part ∈ before, part.2.Known) ∧ ¬ mention.Known ∧
      renderer.formula p r = .error (.fault
        (unknownName (1 + (sourceOf before ++ literal).toList.count '\n'))) := by
  obtain ⟨before, ⟨literal, mention⟩, after, hparts, hknown, hfirst⟩ :=
    exists_first_unknown hunknown
  have hclear : ∀ s ∈ t.parts.map segment, s.Clear := by
    intro s hs
    obtain ⟨part, hpart, rfl⟩ := List.mem_map.mp hs
    exact ⟨h.inert part hpart, h.ends part hpart⟩
  have hread := Template.parse_segments t.toList_template hclear h.last
  refine ⟨⟨_⟩, before, literal, mention, after, read_eq_ok hread, hparts, hknown, hfirst, ?_⟩
  have hvalues : ∀ part ∈ before, ∀ line n, ∃ v, v ≠ .undefined ∧
      ((segment part).tag.expr n).eval (Scope.ofGlobals (globals p r)) line = .ok v := by
    intro part hpart line n
    refine ⟨part.2.value p r, fun hundefined => ?_, part.2.eval_expr p r line n⟩
    exact (part.2.value_eq_undefined_iff p r).mp hundefined (hknown part hpart)
  have hundefined : ∀ line n, ((segment (literal, mention)).tag.expr n).eval
      (Scope.ofGlobals (globals p r)) line = .ok .undefined := by
    intro line n
    rw [← (mention.value_eq_undefined_iff p r).mpr hfirst]
    exact mention.eval_expr p r line n
  have hstops : Stops (Scope.ofGlobals (globals p r))
      (statementsOf t.last.toList 1 ((before ++ (literal, mention) :: after).map segment)) _ :=
    Stops.segments hvalues hundefined (fun line n => Template.lastLine_path line n _ _) _ 1
  rw [hparts, formula_of_stops hstops, ← h.line_eq hparts]
  rfl

/-- A release has a version, but no `tag`; the name after it is not known either. -/
def misspelt : MentionText where
  parts :=
    [
      ("\n#\x7bbin\x7d \x7d\x7d\r\n",
        .release ⟨"version", 'v', ['e', 'r', 's', 'i', 'o', 'n'], String.toList_ofList, rfl, rfl⟩),
      ("\n", .release ⟨"tag", 't', ['a', 'g'], String.toList_ofList, rfl, rfl⟩),
      ("", .name ⟨"_1", '_', ['1'], String.toList_ofList, rfl, rfl⟩ (by decide))
    ]
  last := "\n\x7b"

theorem reports_first_unknown_misspelt : misspelt.Plain ∧
    (∃ part ∈ misspelt.parts, ¬ part.2.Known) ∧
    ∃ renderer before literal mention after,
      Renderer.read misspelt.template = .ok renderer ∧
      misspelt.parts = before ++ (literal, mention) :: after ∧
      (∀ part ∈ before, part.2.Known) ∧ ¬ mention.Known ∧
      renderer.formula Profile.application braceRelease = .error (.fault
        (unknownName (1 + (sourceOf before ++ literal).toList.count '\n'))) := by
  have hplain : misspelt.Plain := ⟨by decide, by decide, by decide, by decide⟩
  have hunknown : ∃ part ∈ misspelt.parts, ¬ part.2.Known := by decide
  exact ⟨hplain, hunknown,
    reports_first_unknown misspelt Profile.application braceRelease hplain hunknown⟩

end MentionText

end ReleaseArtifacts.Formula
