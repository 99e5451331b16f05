import ReleaseArtifacts.Proofs.Formula.Rendering
import ReleaseArtifacts.Proofs.Template.LineRules
import ReleaseArtifacts.Proofs.Template.Literal

namespace ReleaseArtifacts.Formula

/-!
# Listings

A loop whose tags stand on lines of their own lists its items, and of the lines of its tags nothing
is left: neither the blanks before a tag nor the line end after it.

* `TextList` — a list of texts that templates can run over.
* `Listing` — the literal texts around such a loop and inside it: `Listing.template` is the
  template, `Listing.listed` the text that it stands for.
* `Listing.scan_template`, `Listing.parse_template` — the tags of the template, and the loop that
  they write.
* `Listing.renders_listed` — rendering the template gives the text.
-/

open Template (EndsClear EndsLine Expr Inert Prints Scanner Scans Scope Source Statement isIndent
  path)

/-! ### Lists -/

/-- A list of texts that templates can run over. -/
inductive TextList
  | binaries | buildDependencies | invocation
deriving DecidableEq, Repr

namespace TextList

/-- A list as templates write it. -/
def name : TextList → String
  | binaries => "formula.binaries"
  | buildDependencies => "formula.build_dependencies"
  | invocation => "build_invocation"

/-- The texts of a list. -/
def texts (p : Profile) : TextList → List String
  | binaries => p.binaries
  | buildDependencies => p.buildDependencies
  | invocation => p.buildInvocation

/-- A list as an expression. -/
def expr (line : Nat) : TextList → Expr
  | binaries => path line "formula" ["binaries"]
  | buildDependencies => path line "formula" ["build_dependencies"]
  | invocation => path line "build_invocation" []

theorem eval_expr {p : Profile} {r : Release} {s : Scope} (h : Shows p r s) (l : TextList)
    (line n : Nat) : (l.expr n).eval s line = .ok (textsValue (l.texts p)) := by
  cases l
  case binaries => exact h.eval_formula rfl
  case buildDependencies => exact h.eval_formula rfl
  case invocation => exact Template.eval_path (congrArg some h.invocation)

/-- The inside of the tag that opens a loop over a list. -/
def opening (l : TextList) : String := " for x in " ++ l.name ++ " "

/-- The tag that opens a loop over a list. -/
def tag (l : TextList) : String := "\x7b%" ++ l.opening ++ "%\x7d"

theorem scans_tag (l : TextList) : Scans l.tag.toList .block l.opening.toList := by
  intro line done s
  cases l <;> rfl

theorem lexemes_opening (l : TextList) (line : Nat) :
    (Template.lexemes line l.opening.toList).bind Template.Keyword.read =
      some (.loop "x" (l.expr line) none) := by
  cases l
  case binaries =>
    show Template.Keyword.read [⟨.word "for", line⟩, ⟨.word "x", line⟩, ⟨.word "in", line⟩,
      ⟨.word "formula", line⟩, ⟨.symbol '.', line⟩, ⟨.word "binaries", line⟩] = _
    conv => lhs; cbv
    rfl
  case buildDependencies =>
    show Template.Keyword.read [⟨.word "for", line⟩, ⟨.word "x", line⟩, ⟨.word "in", line⟩,
      ⟨.word "formula", line⟩, ⟨.symbol '.', line⟩, ⟨.word "build_dependencies", line⟩] = _
    conv => lhs; cbv
    rfl
  case invocation =>
    show Template.Keyword.read [⟨.word "for", line⟩, ⟨.word "x", line⟩, ⟨.word "in", line⟩,
      ⟨.word "build_invocation", line⟩] = _
    conv => lhs; cbv
    rfl

end TextList

/-! ### The tags inside and after the loop -/

/-- The tag that prints an item. -/
def itemTag : String := "\x7b\x7b x \x7d\x7d"

/-- The tag that closes a loop. -/
def closingTag : String := "\x7b% endfor %\x7d"

theorem scans_itemTag : Scans itemTag.toList .output " x ".toList := fun _ _ _ => rfl

theorem scans_closingTag : Scans closingTag.toList .block " endfor ".toList := fun _ _ _ => rfl

theorem lexemes_item (line : Nat) :
    (Template.lexemes line " x ".toList).bind Template.Keyword.wholeExpr =
      some (path line "x" []) := by
  show Template.Keyword.wholeExpr [⟨.word "x", line⟩] = _
  conv => lhs; cbv
  rfl

theorem lexemes_closing (line : Nat) :
    (Template.lexemes line " endfor ".toList).bind Template.Keyword.read = some .endLoop := rfl

/-! ### Tags alone on their lines -/

section Indents

variable {lines indent : List Char}

/-- Spaces and tabs. -/
def IsIndent (s : List Char) : Prop := ∀ c ∈ s, c = ' ' ∨ c = '\t'

-- By the members: there is also an instance that tries all characters.
instance (s : List Char) : Decidable (IsIndent s) := List.decidableBAll _ s

theorem IsIndent.inert (h : IsIndent indent) : Inert indent :=
  Template.inert_of_notMem fun hc => by obtain h | h := h _ hc <;> cases h

theorem IsIndent.forall_isIndent (h : IsIndent indent) : ∀ c ∈ indent, isIndent c := by
  intro c hc
  obtain rfl | rfl := h c hc <;> decide

/-- Neither whole lines nor an indentation end in a brace. -/
theorem IsIndent.endsClear (h : IsIndent indent) (hlines : lines = [] ∨ EndsLine lines) :
    EndsClear (lines ++ indent) := by
  rw [EndsClear, List.getLast?_append]
  cases hlast : indent.getLast? with
  | some c =>
    obtain rfl | rfl := h c (List.mem_of_getLast? hlast) <;> simp
  | none =>
    obtain rfl | hline := hlines
    · simp
    · rw [hline]
      simp

/-- A tag on a line of its own: what stands before it is literal text, of which the tag takes the
    indentation. -/
theorem IsIndent.before (h : IsIndent indent) (hinert : Inert lines)
    (hlines : lines = [] ∨ EndsLine lines) :
    Inert (lines ++ indent) ∧ Template.dropIndent true (lines ++ indent) = lines := by
  refine ⟨?_, Template.dropIndent_append_indent hlines h.forall_isIndent⟩
  have hends : EndsClear lines := by
    obtain rfl | hline := hlines
    · decide
    · rw [EndsClear, hline]
      decide
  exact hinert.append hends h.inert

end Indents

/-! ### Listings -/

/-- A loop over a list with its tags on lines of their own, and the literal texts about it. -/
structure Listing where
  before : String
  indent : String
  list : TextList
  left : String
  right : String
  closingIndent : String
  after : String

namespace Listing

variable (t : Listing)

/-- The template. -/
def template : String :=
  t.before ++ t.indent ++ t.list.tag ++ "\n" ++ t.left ++ itemTag ++ t.right ++
    t.closingIndent ++ closingTag ++ "\n" ++ t.after

/-- The text that the template stands for: each item of the list between the texts in the loop. -/
def listed (p : Profile) : String :=
  t.before ++ String.join ((t.list.texts p).map fun e => t.left ++ e ++ t.right) ++ t.after

/-- No tag opens in the literal texts, and the tags of the loop are alone on their lines. -/
structure Plain : Prop where
  inert : ∀ s ∈ [t.before, t.left, t.right, t.after], Inert s.toList
  before : t.before = "" ∨ EndsLine t.before.toList
  indent : IsIndent t.indent.toList
  left : EndsClear t.left.toList
  right : EndsLine t.right.toList
  closingIndent : IsIndent t.closingIndent.toList

/-! ### Reading a listing -/

/-- The text up to the loop, with the blanks before its tag. -/
def front : List Char := t.before.toList ++ t.indent.toList

/-- The text from the opening tag to the item. -/
def inner : List Char := '\n' :: t.left.toList

/-- The text from the item to the closing tag. -/
def outer : List Char := t.right.toList ++ t.closingIndent.toList

/-- The text from the closing tag on. -/
def back : List Char := '\n' :: t.after.toList

theorem toList_template :
    t.template.toList = (t.front ++ t.list.tag.toList) ++ ((t.inner ++ itemTag.toList) ++
      ((t.outer ++ closingTag.toList) ++ t.back)) := by
  simp only [template, front, inner, outer, back, String.toList_append, List.append_assoc,
    List.cons_append]
  rfl

/-- The tags of the loop on their lines, with the texts about them. -/
def pieces (openingLine itemLine closingLine : Nat) : Source where
  chunks :=
    [
      (t.front, ⟨.block, openingLine, .lines, .lines, t.list.opening.toList⟩),
      (t.inner, ⟨.output, itemLine, .lines, .lines, " x ".toList⟩),
      (t.outer, ⟨.block, closingLine, .lines, .lines, " endfor ".toList⟩)
    ]
  last := t.back

/-- The loop that the template writes, with the texts about it. -/
def statements (openingLine itemLine : Nat) : List Statement :=
  [
    .text t.before,
    .loop openingLine "x" (t.list.expr openingLine) none
      [.text t.left, .output itemLine (path itemLine "x" []), .text t.right] [],
    .text t.after
  ]

variable {t}

/-- The tags are found, with the texts about them. -/
theorem Plain.scan_template (h : t.Plain) :
    ∃ l₁ l₂ l₃, Source.scan t.template.toList = some (t.pieces l₁ l₂ l₃) := by
  have hbefore : t.before.toList = [] ∨ EndsLine t.before.toList := by simpa using h.before
  have hfront : Inert t.front := (h.indent.before (h.inert _ (by simp)) hbefore).1
  have hinner : Inert t.inner ∧ EndsClear t.inner := by
    refine ⟨Template.inert_cons.mpr ⟨by simp, h.inert _ (by simp)⟩, ?_⟩
    have hleft := h.left
    cases hlast : t.left.toList <;> simp_all [EndsClear, inner]
  have houter : Inert t.outer := (h.closingIndent.before (h.inert _ (by simp)) (.inr h.right)).1
  have hback : Inert t.back := Template.inert_cons.mpr ⟨by simp, h.inert _ (by simp)⟩
  rw [toList_template, Source.scan, Scanner.start, Scanner.run_append,
    Scanner.run_tagged hfront (h.indent.endsClear hbefore) t.list.scans_tag, Scanner.run_append,
    Scanner.run_tagged hinner.1 hinner.2 scans_itemTag, Scanner.run_append,
    Scanner.run_tagged houter (h.closingIndent.endsClear (.inr h.right)) scans_closingTag,
    Scanner.run_literal hback, Scanner.finish_ofText, List.reverse_reverse]
  exact ⟨_, _, _, rfl⟩

/-- The line rules leave nothing of the lines of the two block tags. -/
theorem Plain.items_pieces (h : t.Plain) (l₁ l₂ l₃ : Nat) :
    (t.pieces l₁ l₂ l₃).items =
      [
        .text t.before.toList, .tag ⟨.block, l₁, .lines, .lines, t.list.opening.toList⟩,
        .text t.left.toList, .tag ⟨.output, l₂, .lines, .lines, " x ".toList⟩,
        .text t.right.toList, .tag ⟨.block, l₃, .lines, .lines, " endfor ".toList⟩,
        .text t.after.toList
      ] := by
  have hbefore : t.before.toList = [] ∨ EndsLine t.before.toList := by simpa using h.before
  have hfront : Template.dropIndent true t.front = t.before.toList :=
    (h.indent.before (h.inert _ (by simp)) hbefore).2
  have houter : Template.dropIndent false t.outer = t.right.toList := by
    rw [outer, Template.dropIndent_append h.right,
      Template.dropIndent_of_indent h.closingIndent.forall_isIndent, List.append_nil]
  have hinner : Template.dropLineEnd t.inner = t.left.toList := rfl
  have hback : Template.dropLineEnd t.back = t.after.toList := rfl
  simp only [pieces, Source.items, Template.itemsFrom, Template.trimmed, Template.beforeTag,
    Template.afterTag, Option.isNone_none, Option.isNone_some, reduceCtorEq, if_true, if_false,
    hfront, hinner, houter, hback]

/-- **Reading a listing** gives a loop over the list. -/
theorem Plain.parse_template (h : t.Plain) :
    ∃ l₁ l₂, Statement.parse t.template = some (t.statements l₁ l₂) := by
  obtain ⟨l₁, l₂, l₃, hscan⟩ := h.scan_template
  refine ⟨l₁, l₂, ?_⟩
  obtain ⟨opening, hopening, hloop⟩ := Option.bind_eq_some_iff.mp (t.list.lexemes_opening l₁)
  obtain ⟨item, hitem, hexpr⟩ := Option.bind_eq_some_iff.mp (lexemes_item l₂)
  obtain ⟨closing, hclosing, hend⟩ := Option.bind_eq_some_iff.mp (lexemes_closing l₃)
  have hrun : Template.Builder.start.run (t.pieces l₁ l₂ l₃).items =
      some ⟨[], (t.statements l₁ l₂).reverse⟩ := by
    rw [h.items_pieces]
    simp only [Template.Builder.run, List.foldlM_cons, List.foldlM_nil, Template.Builder.step,
      Template.Builder.tag, hopening, hloop, hitem, hexpr, hclosing, hend, Option.bind_eq_bind,
      Option.bind_some, Option.pure_def, String.ofList_toList]
    rfl
  exact parse_eq_some hscan hrun rfl

/-! ### Rendering a listing -/

/-- The loop prints the items of the list, each between its texts. -/
theorem prints_statements {p : Profile} {r : Release} {s : Scope} (hs : Shows p r s)
    (t : Listing) (l₁ l₂ : Nat) : Prints s (t.statements l₁ l₂) (t.listed p) := by
  have hbody : ∀ s', ∀ e ∈ t.list.texts p, s'.find "x" = .text e → s.SameBut "x" s' →
      Prints s' [.text t.left, .output l₂ (path l₂ "x" []), .text t.right]
        (t.left ++ e ++ t.right) := by
    intro s' e _ he _
    have hprints : Prints s' [.text t.left, .output l₂ (path l₂ "x" []), .text t.right] _ :=
      .labelled _ (Template.eval_path (congrArg some he)) <| .text _ <| .nil s'
    refine hprints.of_eq ?_
    simp only [String.append_assoc, String.append_empty]
  have hprints : Prints s (t.statements l₁ l₂) _ :=
    .text _ <| .loop (t.list.eval_expr hs l₁ l₁) hbody <| .text _ <| .nil s
  refine hprints.of_eq ?_
  simp only [listed, String.append_assoc, String.append_empty]

/-- **Lines of block tags leave nothing.**  A loop over a list of texts, with its tags on lines of
    their own, is read without a fault, and rendering it gives the texts about the loop and between
    them the items, each with the texts about it inside the loop; without items, nothing. -/
theorem renders_listed (t : Listing) (p : Profile) (r : Release) (h : t.Plain) :
    (∃ renderer, Renderer.read t.template = .ok renderer ∧
      renderer.formula p r = .ok (t.listed p)) ∧
    (t.list.texts p = [] → t.listed p = t.before ++ t.after) := by
  obtain ⟨l₁, l₂, hread⟩ := h.parse_template
  refine ⟨⟨⟨_⟩, read_eq_ok hread, formula_of_prints ?_⟩, fun hempty => ?_⟩
  · exact prints_statements (Shows.ofGlobals p r) t l₁ l₂
  · simp [listed, hempty]

/-- Lists with blank lines, blanks and braces about the items. -/
def bracedListing : Listing where
  before := "\n\t# \x7d\x7d\n"
  indent := " \t"
  list := .invocation
  left := "\n\n  \x7b "
  right := "\x7d \x7b\r\n\n"
  closingIndent := "\t\t"
  after := "\nend \x7b"

theorem renders_listed_application : bracedListing.Plain ∧
    (∃ renderer, Renderer.read bracedListing.template = .ok renderer ∧
      renderer.formula Profile.application braceRelease =
        .ok (bracedListing.listed Profile.application)) := by
  have hplain : bracedListing.Plain :=
    ⟨by decide, by decide, by decide, by decide, by decide, by decide⟩
  exact ⟨hplain, (renders_listed bracedListing Profile.application braceRelease hplain).1⟩

end Listing

end ReleaseArtifacts.Formula
