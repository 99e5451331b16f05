import ReleaseArtifacts.Proofs.Alike
import ReleaseArtifacts.Proofs.Template.Likeness

namespace ReleaseArtifacts.Template

/-!
# Reading expressions alike

From tokens that are alike the readers of expressions read alike expressions: a name comes from a
word among the tokens, and a line from the token on it.

There is one lemma for each reader, from the tightest to the loosest.  Readers of brackets take the
reader of what is in them as an argument, and `nestedTo_alike` closes the circle by induction on the
depth.
-/

/-- A reader of expressions reads alike expressions from alike tokens. -/
abbrev Expr.ReadsAlike (k : Likeness) (p : Expr.ExprReader) : Prop :=
  Reader.Alike (Lexeme.Alike k) (Expr.Alike k) p p

/-- The reader of a symbol or a word that nothing is kept of. -/
abbrev TakesAlike (k : Likeness) (p : Reader Lexeme Unit) : Prop :=
  Reader.AlikeUnit (Lexeme.Alike k) p p

variable {k : Likeness}

/-! ### Single tokens -/

namespace Lexeme.Alike

variable {l l' : Lexeme}

theorem isSymbolToken (h : l.Alike k l') (c : Char) :
    Expr.isSymbolToken c l' = Expr.isSymbolToken c l := by
  rw [Expr.isSymbolToken, Expr.isSymbolToken, h.token]

theorem isWordToken (h : l.Alike k l') (w : String) :
    Expr.isWordToken w l' = Expr.isWordToken w l := by
  rw [Expr.isWordToken, Expr.isWordToken, h.token]

end Lexeme.Alike

namespace Expr

theorem expectSymbol_alike (c : Char) : TakesAlike k (expectSymbol c) := by
  refine symbol_alike fun l l' hl => ?_
  rw [hl.isSymbolToken]
  split
  · exact .some trivial
  · exact .none

theorem expectWord_alike (w : String) : TakesAlike k (expectWord w) := by
  refine symbol_alike fun l l' hl => ?_
  rw [hl.isWordToken]
  split
  · exact .some trivial
  · exact .none

/-- A word that is read is one of the tokens. -/
theorem anyWord_alike :
    Reader.Alike (Lexeme.Alike k) (fun w w' => w' = w ∧ k.name w) anyWord anyWord := by
  refine symbol_alike fun l l' hl => ?_
  simp only [hl.token]
  split
  · exact .some ⟨rfl, hl.word _ ‹_›⟩
  · exact .none

theorem ofLexeme_alike {l l' : Lexeme} (hl : l.Alike k l') :
    Option.Rel (Expr.Alike k) (ofLexeme l) (ofLexeme l') := by
  simp only [ofLexeme, hl.token, hl.line]
  split
  next x hx =>
    split
    · exact .some (.literal _ _)
    · exact .some (.name _ (hl.word x hx))
  · exact .some (.literal _ _)
  · exact .some (.literal _ _)
  · exact .none

/-! ### Operands -/

section Operands

variable {nested : ExprReader} {e e' : Expr}

theorem listUntil_alike (hn : ReadsAlike k nested) (close : Char) :
    Reader.Alike (Lexeme.Alike k) (List.Forall₂ (Expr.Alike k)) (listUntil close nested)
      (listUntil close nested) := by
  intro input input' hinput
  simp only [listUntil]
  obtain ⟨hr, hr'⟩ | ⟨r, r', hr, hr', hclose⟩ := rel_cases (expectSymbol_alike close hinput)
  · rw [hr, hr']
    -- Something stands before the closing symbol, perhaps with a comma after it.
    refine rel_bind ((Reader.Alike.separated (expectSymbol_alike ',') hn) hinput) ?_
    intro items items' hitems
    obtain ⟨hc, hc'⟩ | ⟨c, c', hc, hc', hcomma⟩ := rel_cases (expectSymbol_alike ',' hitems.rest)
    · rw [hc, hc']
      exact rel_bind (expectSymbol_alike close hitems.rest) fun _ _ hend =>
        .some (hitems.closedBy hend)
    · rw [hc, hc']
      exact rel_bind (expectSymbol_alike close hcomma.rest) fun _ _ hend =>
        .some (hitems.closedBy (hcomma.followedBy hend))
  · rw [hr, hr']
    exact .some (hclose.map fun _ _ _ => .nil)

theorem primary_alike (hn : ReadsAlike k nested) : ReadsAlike k (primary nested) := by
  intro input input' hinput
  cases hinput with
  | nil => exact .none
  | cons hl hrest =>
    simp only [primary, hl.isSymbolToken]
    -- Parentheses, a list, or a single token.
    split
    · refine rel_bind (hn hrest) fun e e' he => ?_
      exact rel_bind (expectSymbol_alike ')' he.rest) fun _ _ hend =>
        .some ((he.closedBy hend).tail _ _)
    · split
      · exact rel_bind (listUntil_alike hn ']' hrest) fun _ _ hitems =>
          .some ((hitems.map fun _ _ h => .list (.of_forall₂ h)).tail _ _)
      · exact rel_map (ofLexeme_alike hl) fun _ _ he => ⟨he, hrest⟩

/-- Only names can be called, and the name of a function is a name. -/
theorem called_alike (he : e.Alike k e') {es es' : List Expr}
    (hes : List.Forall₂ (Expr.Alike k) es es') :
    Option.Rel (Expr.Alike k) (called e es) (called e' es') := by
  cases he with
  | name line hx => exact .some (.call hx (.of_forall₂ hes))
  | _ => exact .none

theorem suffixStep_alike (hn : ReadsAlike k nested) :
    StepAlike (Lexeme.Alike k) (Expr.Alike k) (suffixStep nested) (suffixStep nested) := by
  intro e e' he input input' hinput
  cases hinput with
  | nil => exact .stop
  | cons hl hrest =>
    simp only [suffixStep, hl.isSymbolToken]
    -- A point with a field, an item in brackets, the arguments of a call, or none of them.
    split
    · obtain ⟨hw, hw'⟩ | ⟨w, w', hw, hw', hword⟩ := rel_cases (anyWord_alike hrest)
      · rw [hw, hw']
        exact .refuse
      · rw [hw, hw']
        refine .next (Read.Alike.tail (hword.map ?_) _ _)
        rintro _ x ⟨rfl, -⟩
        exact .field he x
    · split
      · obtain ⟨hkey, hkey'⟩ | ⟨r, r', hkey, hkey', hr⟩ := rel_cases (hn hrest)
        · rw [hkey, hkey']
          exact .refuse
        · rw [hkey, hkey']
          obtain ⟨hc, hc'⟩ | ⟨c, c', hc, hc', hclose⟩ := rel_cases (expectSymbol_alike ']' hr.rest)
          · simp only [hc, hc']
            exact .refuse
          · simp only [hc, hc']
            exact .next (((hr.closedBy hclose).map fun _ _ h => .item he h).tail _ _)
      · split
        · obtain ⟨hes, hes'⟩ | ⟨r, r', hes, hes', hr⟩ := rel_cases (listUntil_alike hn ')' hrest)
          · rw [hes, hes']
            exact .refuse
          · rw [hes, hes']
            obtain ⟨hc, hc'⟩ | ⟨c, c', hc, hc', hcall⟩ := rel_cases (called_alike he hr.value)
            · simp only [hc, hc']
              exact .refuse
            · simp only [hc, hc']
              exact .next ((hr.map fun _ _ _ => hcall).tail _ _)
        · exact .stop

theorem definedness_alike (he : e.Alike k e') (w : String) :
    Option.Rel (Expr.Alike k) (definedness e w) (definedness e' w) := by
  unfold definedness
  split
  · exact .some (.isDefined he)
  · exact .some (.not (.isDefined he))
  · exact .none

theorem test_alike (he : e.Alike k e') :
    Reader.Alike (Lexeme.Alike k) (Expr.Alike k) (test e) (test e') := by
  intro input input' hinput
  simp only [test]
  obtain ⟨hr, hr'⟩ | ⟨r, r', hr, hr', hnot⟩ := rel_cases (expectWord_alike "not" hinput)
  · rw [hr, hr']
    refine rel_bind (anyWord_alike hinput) fun w w' hw => ?_
    rw [hw.value.1]
    exact rel_bind (definedness_alike he w.value) fun _ _ hd => .some (hw.map fun _ _ _ => hd)
  · rw [hr, hr']
    refine rel_bind (anyWord_alike hnot.rest) fun w w' hw => ?_
    rw [hw.value.1]
    exact rel_bind (definedness_alike he w.value) fun _ _ hd =>
      .some ((hnot.followedBy hw).map fun _ _ _ => .not hd)

theorem filtered_alike (hn : ReadsAlike k nested) (he : e.Alike k e') :
    Reader.Alike (Lexeme.Alike k) (Expr.Alike k) (filtered nested e) (filtered nested e') := by
  intro input input' hinput
  simp only [filtered]
  refine rel_bind (anyWord_alike hinput) fun w w' hw => ?_
  obtain ⟨hr, hr'⟩ | ⟨r, r', hr, hr', hopen⟩ := rel_cases (expectSymbol_alike '(' hw.rest)
  · rw [hr, hr']
    refine .some (hw.map ?_)
    rintro _ f ⟨rfl, -⟩
    exact .filter f he .nil
  · rw [hr, hr', hw.value.1]
    exact rel_bind (listUntil_alike hn ')' hopen.rest) fun _ _ hes =>
      .some (hw.followedBy (hopen.followedBy (hes.map fun _ _ h =>
        .filter w.value he (.of_forall₂ h))))

theorem filterStep_alike (hn : ReadsAlike k nested) :
    StepAlike (Lexeme.Alike k) (Expr.Alike k) (filterStep nested) (filterStep nested) := by
  intro e e' he input input' hinput
  cases hinput with
  | nil => exact .stop
  | cons hl hrest =>
    simp only [filterStep, hl.isSymbolToken, hl.isWordToken]
    split
    · obtain ⟨hf, hf'⟩ | ⟨r, r', hf, hf', hr⟩ := rel_cases (filtered_alike hn he hrest)
      · rw [hf, hf']
        exact .refuse
      · rw [hf, hf']
        exact .next (hr.tail _ _)
    · split
      · obtain ⟨ht, ht'⟩ | ⟨r, r', ht, ht', hr⟩ := rel_cases (test_alike he hrest)
        · rw [ht, ht']
          exact .refuse
        · rw [ht, ht']
          exact .next (hr.tail _ _)
      · exact .stop

theorem signed_alike (hn : ReadsAlike k nested) : ReadsAlike k (signed nested) := by
  intro input input' hinput
  induction hinput with
  | nil => exact .none
  | cons hl hrest ih =>
    simp only [signed, hl.isSymbolToken]
    split
    · exact rel_bind ih fun _ _ he => .some ((he.map fun _ _ h => .negative h).tail _ _)
    · exact primary_alike hn (.cons hl hrest)

theorem operand_alike (hn : ReadsAlike k nested) : ReadsAlike k (operand nested) := by
  intro input input' hinput
  refine rel_bind (signed_alike hn hinput) fun e e' he => ?_
  refine rel_bind (extend_alike (suffixStep_alike hn) he.value he.rest) fun s s' hs => ?_
  refine rel_bind (extend_alike (filterStep_alike hn) hs.value hs.rest) fun f f' hf => ?_
  exact .some (he.completedBy ⟨hf.value, hf.rest⟩)

end Operands

/-! ### Operators -/

section Operators

variable {nested : ExprReader}

theorem operatorOf_alike (table : List (Token × BinaryOp)) :
    OperatorAlike (Lexeme.Alike k) (Expr.Alike k) (operatorOf table) (operatorOf table) := by
  intro l l' hl
  rw [operatorOf, operatorOf, hl.token]
  cases table.lookup l.token with
  | none => exact .none
  | some op => exact .some fun _ _ ha _ _ hb => .binary op ha hb

/-- An operator that is written as a word joins what stands on its sides. -/
theorem wordOperator_alike (w : String) {join : Expr → Expr → Expr}
    (hjoin : ∀ a a', a.Alike k a' → ∀ b b', b.Alike k b' → (join a b).Alike k (join a' b')) :
    OperatorAlike (Lexeme.Alike k) (Expr.Alike k)
      (fun l => if isWordToken w l then some join else none)
      (fun l => if isWordToken w l then some join else none) := by
  intro l l' hl
  simp only [hl.isWordToken]
  split
  · exact .some hjoin
  · exact .none

theorem products_alike (hn : ReadsAlike k nested) : ReadsAlike k (products nested) :=
  (operand_alike hn).leftChain (operatorOf_alike _)

theorem joins_alike (hn : ReadsAlike k nested) : ReadsAlike k (joins nested) :=
  (products_alike hn).leftChain (operatorOf_alike _)

theorem sums_alike (hn : ReadsAlike k nested) : ReadsAlike k (sums nested) :=
  (joins_alike hn).leftChain (operatorOf_alike _)

theorem comparisonStep_alike (hn : ReadsAlike k nested) :
    StepAlike (Lexeme.Alike k) (Expr.Alike k) (comparisonStep nested) (comparisonStep nested) := by
  intro e e' he input input' hinput
  cases hinput with
  | nil => exact .stop
  | cons hl hrest =>
    simp only [comparisonStep, hl.isWordToken]
    -- `not` has to be followed by `in`; all other comparisons are of one token.
    split
    · obtain ⟨hw, hw'⟩ | ⟨w, w', hw, hw', hword⟩ := rel_cases (expectWord_alike "in" hrest)
      · rw [hw, hw']
        exact .refuse
      · rw [hw, hw']
        obtain ⟨hs, hs'⟩ | ⟨r, r', hs, hs', hr⟩ := rel_cases (sums_alike hn hword.rest)
        · simp only [hs, hs']
          exact .refuse
        · simp only [hs, hs']
          exact .next (((hword.followedBy hr).map fun _ _ h =>
            .not (.binary .within he h)).tail _ _)
    · exact chainStep_alike (sums_alike hn) (operatorOf_alike _) he (.cons hl hrest)

theorem comparisons_alike (hn : ReadsAlike k nested) : ReadsAlike k (comparisons nested) := by
  intro input input' hinput
  refine rel_bind (sums_alike hn hinput) fun first first' hfirst => ?_
  exact rel_bind (extend_alike (comparisonStep_alike hn) hfirst.value hfirst.rest) fun _ _ hall =>
    .some (hfirst.completedBy hall)

theorem negations_alike (hn : ReadsAlike k nested) : ReadsAlike k (negations nested) := by
  intro input input' hinput
  induction hinput with
  | nil => exact .none
  | cons hl hrest ih =>
    simp only [negations, hl.isWordToken]
    split
    · exact rel_bind ih fun _ _ he => .some ((he.map fun _ _ h => .not h).tail _ _)
    · exact comparisons_alike hn (.cons hl hrest)

theorem conjunctions_alike (hn : ReadsAlike k nested) : ReadsAlike k (conjunctions nested) :=
  (negations_alike hn).leftChain (wordOperator_alike _ fun _ _ ha _ _ hb => .and ha hb)

theorem disjunctions_alike (hn : ReadsAlike k nested) : ReadsAlike k (disjunctions nested) :=
  (conjunctions_alike hn).leftChain (wordOperator_alike _ fun _ _ ha _ _ hb => .or ha hb)

theorem condition_alike (hn : ReadsAlike k nested) : ReadsAlike k (condition nested) := by
  intro input input' hinput
  refine rel_bind (expectWord_alike "if" hinput) fun i i' hi => ?_
  refine rel_bind (disjunctions_alike hn hi.rest) fun c c' hc => ?_
  exact rel_bind (expectWord_alike "else" hc.rest) fun _ _ helse =>
    .some (hi.followedBy (hc.closedBy helse))

theorem choices_alike (hn : ReadsAlike k nested) : ReadsAlike k (choices nested) := by
  intro input input' hinput
  -- On the length of the first input: the last part of a choice is a choice again.
  induction hlength : input.length using Nat.strongRecOn generalizing input input' with
  | ind n ih =>
    subst hlength
    rw [choices.eq_def nested input, choices.eq_def nested input']
    obtain ⟨hd, hd'⟩ | ⟨yes, yes', hd, hd', hyes⟩ := rel_cases (disjunctions_alike hn hinput)
    · rw [hd, hd']
      exact .none
    · rw [hd, hd']
      obtain ⟨hi, hi'⟩ | ⟨i, i', hi, hi', -⟩ := rel_cases (expectWord_alike "if" hyes.rest)
      · simp only [hi, hi']
        exact .some hyes
      · simp only [hi, hi']
        obtain ⟨hc, hc'⟩ | ⟨c, c', hc, hc', hcond⟩ := rel_cases (condition_alike hn hyes.rest)
        · simp only [hc, hc']
          exact .none
        · simp only [hc, hc']
          have hno := ih _ (yes.followedBy c).shorter (hyes.followedBy hcond).rest rfl
          exact rel_map hno fun _ _ hr => (hyes.followedBy hcond).followedBy
            (hr.map fun _ _ h => .choice hyes.value hcond.value h)

/-- **Brackets.**  By induction on how deep they may be nested. -/
theorem nestedTo_alike (depth : Nat) : ReadsAlike k (nestedTo depth) := by
  induction depth with
  | zero => exact fun _ _ _ => .none
  | succ depth ih => exact choices_alike ih

theorem read_alike : ReadsAlike k read := nestedTo_alike nestingLimit

theorem readDisjunction_alike : ReadsAlike k readDisjunction :=
  disjunctions_alike (nestedTo_alike _)

end Operators

end Expr

end ReleaseArtifacts.Template
