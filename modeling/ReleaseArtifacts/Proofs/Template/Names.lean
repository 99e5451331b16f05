import ReleaseArtifacts.Proofs.Reading
import ReleaseArtifacts.Proofs.Template.Literal

namespace ReleaseArtifacts.Template

/-!
# Names in output tags

An output tag with a dotted name in it, whatever its words are.

* `IsWord w` — the text `w` is one word of a tag.
* `lexemes_dotted` — the tokens of a dotted name.
* `wholeExpr_dotted` — the expression of a dotted name, unless its first word is a constant or `not`.
* `nameTag` — the output tag of a dotted name.
-/

/-! ### Words -/

/-- A letter or an underscore, and then letters, digits and underscores. -/
def IsWord (w : String) : Prop :=
  ∃ c s, w.toList = c :: s ∧ isWordStart c ∧ s.all isWordPart

theorem isWordPart_of_start {c : Char} (h : isWordStart c) : isWordPart c := by
  rw [isWordPart, h, Bool.true_or]

theorem IsWord.forall_part {w : String} (h : IsWord w) : ∀ c ∈ w.toList, isWordPart c := by
  obtain ⟨c, s, hw, hc, hs⟩ := h
  rw [hw]
  exact List.forall_mem_cons.mpr ⟨isWordPart_of_start hc, List.all_eq_true.mp hs⟩

/-- What no word has in it. -/
theorem ne_of_isWordPart {c d : Char} (hc : isWordPart c) (hd : isWordPart d = false) : c ≠ d := by
  rintro rfl
  rw [hc] at hd
  cases hd

/-- The text of a dotted name. -/
def dotted (x : String) (fields : List String) : List Char :=
  x.toList ++ fields.flatMap fun f => '.' :: f.toList

/-- The tokens of the fields of a dotted name. -/
def fieldLexemes (line : Nat) (fields : List String) : List Lexeme :=
  fields.flatMap fun f => [⟨.symbol '.', line⟩, ⟨.word f, line⟩]

/-! ### Tokens -/

namespace Lexer

variable {line : Nat} {done : List Lexeme}

/-- A word goes on as long as it can. -/
theorem run_part {s : List Char} (hs : ∀ d ∈ s, isWordPart d) (w : List Char) :
    run ⟨line, done, .word w line⟩ s = some ⟨line, done, .word (s.reverse ++ w) line⟩ := by
  induction s generalizing w with
  | nil => rfl
  | cons d s ih =>
    obtain ⟨hd, hs⟩ := List.forall_mem_cons.mp hs
    have hline : lineAfter line d = line := if_neg (ne_of_isWordPart hd (by decide))
    have hstep : step ⟨line, done, .word w line⟩ d = some ⟨line, done, .word (d :: w) line⟩ := by
      simp only [step, read, hd, if_true, Option.map_some, hline]
    have hrest : run ⟨line, done, .word w line⟩ (d :: s) = run ⟨line, done, .word (d :: w) line⟩ s := by
      simp only [run, List.foldlM_cons, hstep, Option.bind_eq_bind, Option.bind_some]
    rw [hrest, ih hs, List.reverse_cons, List.append_assoc]
    rfl

/-- A word where a token may begin. -/
theorem run_word {w : String} (hw : IsWord w) :
    run ⟨line, done, .nothing⟩ w.toList = some ⟨line, done, .word w.toList.reverse line⟩ := by
  obtain ⟨c, s, hchars, hc, hs⟩ := hw
  have hpart := isWordPart_of_start hc
  have hblank : Text.isAsciiBlank c = false := by
    have hne : ∀ d, isWordPart d = false → c ≠ d := fun d => ne_of_isWordPart hpart
    simp [Text.isAsciiBlank, hne ' ' (by decide), hne '\t' (by decide), hne '\n' (by decide),
      hne '\r' (by decide), hne '\x0c' (by decide)]
  have hline : lineAfter line c = line := if_neg (ne_of_isWordPart hpart (by decide))
  have hstep : step ⟨line, done, .nothing⟩ c = some ⟨line, done, .word [c] line⟩ := by
    simp only [step, read, begin, hblank, hc, if_true, Bool.false_eq_true, if_false,
      Option.map_some, hline]
  have hrest : run ⟨line, done, .nothing⟩ (c :: s) = run ⟨line, done, .word [c] line⟩ s := by
    simp only [run, List.foldlM_cons, hstep, Option.bind_eq_bind, Option.bind_some]
  rw [hchars, hrest, run_part (List.all_eq_true.mp hs), List.reverse_cons]

theorem run_append {l : Lexer} (a b : List Char) : l.run (a ++ b) = (l.run a).bind (·.run b) := by
  rw [run, List.foldlM_append]
  rfl

/-- A blank ends a word. -/
theorem run_blank (w : String) :
    run ⟨line, done, .word w.toList.reverse line⟩ [' '] =
      some ⟨line, ⟨.word w, line⟩ :: done, .nothing⟩ := by
  have hend : ∀ s, run ⟨line, done, .word s line⟩ [' '] =
      some ⟨line, ⟨.word (String.ofList s.reverse), line⟩ :: done, .nothing⟩ := fun _ => rfl
  rw [hend, List.reverse_reverse, String.ofList_toList]

/-- A point ends a word, and is a token of its own. -/
theorem run_point (w : String) :
    run ⟨line, done, .word w.toList.reverse line⟩ ['.'] =
      some ⟨line, ⟨.symbol '.', line⟩ :: ⟨.word w, line⟩ :: done, .nothing⟩ := by
  have hend : ∀ s, run ⟨line, done, .word s line⟩ ['.'] =
      some ⟨line, ⟨.symbol '.', line⟩ :: ⟨.word (String.ofList s.reverse), line⟩ :: done,
        .nothing⟩ := fun _ => rfl
  rw [hend, List.reverse_reverse, String.ofList_toList]

/-- The words of a dotted name are read one after the other. -/
theorem run_dotted {x : String} {fields : List String} (hx : IsWord x)
    (hfields : ∀ f ∈ fields, IsWord f) :
    run ⟨line, done, .nothing⟩ (dotted x fields ++ [' ']) =
      some ⟨line, (⟨.word x, line⟩ :: fieldLexemes line fields).reverse ++ done, .nothing⟩ := by
  -- On the fields: each point begins the rest of the name as a dotted name of its own.
  induction fields generalizing x done with
  | nil =>
    rw [dotted, List.flatMap_nil, List.append_nil, run_append, run_word hx, Option.bind_some,
      run_blank]
    rfl
  | cons f fields ih =>
    obtain ⟨hf, hfields⟩ := List.forall_mem_cons.mp hfields
    have hsplit : dotted x (f :: fields) ++ [' '] =
        x.toList ++ (['.'] ++ (dotted f fields ++ [' '])) := by
      simp [dotted]
    rw [hsplit, run_append, run_word hx, Option.bind_some, run_append, run_point, Option.bind_some,
      ih hf hfields]
    simp [fieldLexemes]

end Lexer

/-- The tokens of a dotted name between blanks. -/
theorem lexemes_dotted {x : String} {fields : List String} (hx : IsWord x)
    (hfields : ∀ f ∈ fields, IsWord f) (line : Nat) :
    lexemes line (' ' :: (dotted x fields ++ [' '])) =
      some (⟨.word x, line⟩ :: fieldLexemes line fields) := by
  have hblank : (Lexer.start line).run (' ' :: (dotted x fields ++ [' '])) =
      Lexer.run ⟨line, [], .nothing⟩ (dotted x fields ++ [' ']) := rfl
  rw [lexemes, hblank, Lexer.run_dotted hx hfields]
  simp [Lexer.settle]

/-! ### Expressions -/

section Expressions

variable {nested : Expr.ExprReader} {line : Nat} {x : String} {fields : List String}
  {input : List Lexeme} {e : Expr}

/-- The words that are not names: constants, and the word that negates. -/
def keywords : List String := ["true", "True", "false", "False", "none", "None", "not"]

theorem lookup_constants (hx : x ∉ keywords) : Expr.constants.lookup x = none := by
  rw [List.lookup_eq_none_iff]
  rintro ⟨w, v⟩ hw
  have hkeyword : w ∈ keywords :=
    List.mem_append_left ["not"] (List.mem_map_of_mem (f := Prod.fst) hw)
  simpa using (ne_of_mem_of_not_mem hkeyword hx).symm

/-- At the end of a tag no loop goes on. -/
theorem leaves_nil {α : Type} {step : α → (input : List Lexeme) → Continuation α input} {value : α}
    (h : step value [] = .stop) : Leaves (Reader.extend step value) [] value [] :=
  (Steps.stop h).extend

/-- What takes a whole tag is all that a loop after it extends. -/
theorem reads_extended {first : Expr.ExprReader}
    {step : Expr → (input : List Lexeme) → Continuation Expr input} (h : Reads first input e [])
    (hstop : step e [] = .stop) :
    Reads (fun input => do
      let first ← first input
      let all ← Reader.extend step first.value first.rest
      return first.completedBy all) input e [] := by
  obtain ⟨hlt, hfirst⟩ := h
  obtain ⟨hle, hall⟩ := leaves_nil hstop
  refine ⟨hlt, ?_⟩
  simp only [hfirst, Option.bind_eq_bind, Option.bind_some, hall]
  rfl

/-- The fields of a dotted name are read one after the other. -/
theorem steps_fields (e : Expr) (fields : List String) :
    Steps (Expr.suffixStep nested) e (fieldLexemes line fields) (fields.foldl Expr.field e) [] := by
  induction fields generalizing e with
  | nil => exact .stop rfl
  | cons f fields ih =>
    have hstep : Expr.suffixStep nested e (fieldLexemes line (f :: fields)) =
        .next ⟨.field e f, fieldLexemes line fields, Nat.lt_succ_of_lt (Nat.lt_succ_self _)⟩ := rfl
    exact .next hstep (ih _)

/-- Names are no signs and no constants. -/
theorem signed_name (hx : x ∉ keywords) (rest : List Lexeme) :
    Expr.signed nested (⟨.word x, line⟩ :: rest) = some (.first (.name line x) _ rest) := by
  have hsign : Expr.isSymbolToken '-' ⟨.word x, line⟩ = false := rfl
  have hopen : Expr.isSymbolToken '(' ⟨.word x, line⟩ = false := rfl
  have hlist : Expr.isSymbolToken '[' ⟨.word x, line⟩ = false := rfl
  simp only [Expr.signed, Expr.primary, hsign, hopen, hlist, Expr.ofLexeme, lookup_constants hx,
    Bool.false_eq_true, if_false, Option.map_some]

/-- A dotted name is an operand. -/
theorem reads_operand (hx : x ∉ keywords) :
    Reads (Expr.operand nested) (⟨.word x, line⟩ :: fieldLexemes line fields)
      (path line x fields) [] := by
  have hsteps : Steps (Expr.suffixStep nested) (.name line x) (fieldLexemes line fields)
      (path line x fields) [] := steps_fields _ _
  have hnone : Expr.filterStep nested (path line x fields) [] = .stop := rfl
  obtain ⟨hle, hsuffixes⟩ := hsteps.extend
  obtain ⟨hstop, hfilters⟩ := leaves_nil hnone
  refine ⟨Nat.lt_succ_of_le hle, ?_⟩
  rw [Expr.operand, signed_name hx]
  simp only [Option.bind_eq_bind, Option.bind_some, Read.first, hsuffixes, hfilters]
  rfl

/-- No operator stands after the name, at any level. -/
theorem reads_comparison (hx : x ∉ keywords) :
    Reads (Expr.comparisons nested) (⟨.word x, line⟩ :: fieldLexemes line fields)
      (path line x fields) [] := by
  have hproduct : Reads (Expr.products nested) _ (path line x fields) [] :=
    reads_extended (reads_operand hx) rfl
  have hjoin : Reads (Expr.joins nested) _ (path line x fields) [] := reads_extended hproduct rfl
  have hsum : Reads (Expr.sums nested) _ (path line x fields) [] := reads_extended hjoin rfl
  exact reads_extended hsum rfl

/-- The name is not the word that negates. -/
theorem reads_negation (hx : x ∉ keywords) :
    Reads (Expr.negations nested) (⟨.word x, line⟩ :: fieldLexemes line fields)
      (path line x fields) [] := by
  have hnot : Expr.isWordToken "not" ⟨.word x, line⟩ = false := by
    have hne : x ≠ "not" := by
      rintro rfl
      exact hx (by decide)
    simpa [Expr.isWordToken] using hne
  have hcomparison : Reads (Expr.comparisons nested) (⟨.word x, line⟩ :: fieldLexemes line fields)
      (path line x fields) [] := reads_comparison hx
  obtain ⟨hlt, hread⟩ := hcomparison
  refine ⟨hlt, ?_⟩
  rw [Expr.negations, if_neg (by rw [hnot]; decide), hread]

/-- **A dotted name is an expression,** and the tag ends after it. -/
theorem reads_dotted (hx : x ∉ keywords) :
    Reads Expr.read (⟨.word x, line⟩ :: fieldLexemes line fields) (path line x fields) [] := by
  have hconjunction : Reads (Expr.conjunctions (Expr.nestedTo (Expr.nestingLimit - 1)))
      (⟨.word x, line⟩ :: fieldLexemes line fields) (path line x fields) [] :=
    reads_extended (reads_negation hx) rfl
  have hdisjunction : Reads (Expr.disjunctions (Expr.nestedTo (Expr.nestingLimit - 1)))
      (⟨.word x, line⟩ :: fieldLexemes line fields) (path line x fields) [] :=
    reads_extended hconjunction rfl
  obtain ⟨hlt, hread⟩ := hdisjunction
  refine ⟨hlt, ?_⟩
  show Expr.choices (Expr.nestedTo (Expr.nestingLimit - 1)) _ = _
  rw [Expr.choices, hread]
  rfl

theorem wholeExpr_dotted (hx : x ∉ keywords) :
    Keyword.wholeExpr (⟨.word x, line⟩ :: fieldLexemes line fields) = some (path line x fields) := by
  have hdotted : Reads Expr.read (⟨.word x, line⟩ :: fieldLexemes line fields)
      (path line x fields) [] := reads_dotted hx
  obtain ⟨hlt, hread⟩ := hdotted
  rw [Keyword.wholeExpr, hread]
  rfl

end Expressions

/-! ### Tags -/

/-- The characters that end a tag, a quotation before its end, or a line. -/
def breaks : List Char := ['}', '"', '\'', '\n']

/-- Inside a tag, text without such characters is kept. -/
theorem Scanner.run_inside {line : Nat} {done : List Chunk} {o : Opening} {s : List Char}
    (hs : ∀ c ∈ s, c ∉ breaks) (body : List Char) :
    run ⟨line, done, .inside o body⟩ s = ⟨line, done, .inside o (s.reverse ++ body)⟩ := by
  induction s generalizing body with
  | nil => rfl
  | cons c s ih =>
    obtain ⟨hc, hs⟩ := List.forall_mem_cons.mp hs
    simp only [breaks, List.mem_cons, List.not_mem_nil, or_false, not_or] at hc
    obtain ⟨hbrace, hdouble, hsingle, hline⟩ := hc
    have hnext : insideNext o body c = (.inside o (c :: body), none) := by
      simp [insideNext, hbrace, hdouble, hsingle]
    have hstep : step ⟨line, done, .inside o body⟩ c = ⟨line, done, .inside o (c :: body)⟩ := by
      simp only [step, Mode.next, hnext, lineAfter, if_neg hline, Option.toList_none,
        List.nil_append]
    rw [run, List.foldl_cons, hstep, List.reverse_cons, List.append_assoc]
    exact ih hs (c :: body)

/-- An output tag takes its text, if blanks stand at both ends of it. -/
theorem scans_output {s : List Char} (hs : ∀ c ∈ s, c ∉ breaks) :
    Scans (['{', '{', ' '] ++ (s ++ [' ', '}', '}'])) .output (' ' :: (s ++ [' '])) := by
  intro line done t
  let o : Opening := ⟨t, .output, .lines, line⟩
  have hopen : Scanner.run ⟨line, done, .text t⟩ ['{', '{', ' '] =
      ⟨line, done, .inside o [' ']⟩ := rfl
  have hclose : ∀ body, Scanner.run ⟨line, done, .inside o body⟩ [' ', '}', '}'] =
      ⟨line, (t.reverse, ⟨.output, line, .lines, .lines, (' ' :: body).reverse⟩) :: done,
        .text []⟩ := fun _ => rfl
  rw [Scanner.run_append, hopen, Scanner.run_append, Scanner.run_inside hs, hclose]
  simp

/-- No word has a quote, a brace or a line end in it, nor does a point between two words. -/
theorem dotted_plain {x : String} {fields : List String} (hx : IsWord x)
    (hfields : ∀ f ∈ fields, IsWord f) :
    ∀ c ∈ dotted x fields, c ∉ breaks := by
  have hnone : (breaks.all fun d => !isWordPart d) = true := rfl
  have hword : ∀ w : String, IsWord w → ∀ c ∈ w.toList, c ∉ breaks := by
    intro w hw c hc hmem
    have hpart : isWordPart c = false := by simpa using List.all_eq_true.mp hnone c hmem
    exact ne_of_isWordPart (hw.forall_part c hc) hpart rfl
  intro c hc
  rw [dotted, List.mem_append, List.mem_flatMap] at hc
  obtain hc | ⟨f, hf, hc⟩ := hc
  · exact hword x hx c hc
  · obtain rfl | hc := List.mem_cons.mp hc
    · decide
    · exact hword f (hfields f hf) c hc

/-- The output tag of a dotted name. -/
def nameTag (x : String) (fields : List String) (hx : IsWord x) (hkeyword : x ∉ keywords)
    (hfields : ∀ f ∈ fields, IsWord f) : OutputTag where
  source := ['{', '{', ' '] ++ (dotted x fields ++ [' ', '}', '}'])
  body := ' ' :: (dotted x fields ++ [' '])
  expr := fun line => path line x fields
  scanned := scans_output (dotted_plain hx hfields)
  read := by
    intro line
    rw [lexemes_dotted hx hfields, Option.bind_some, wholeExpr_dotted hkeyword]

end ReleaseArtifacts.Template
