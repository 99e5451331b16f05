import ReleaseArtifacts.Proofs.Template.ReadingAlike

namespace ReleaseArtifacts.Template

/-!
# Reading tags alike

A tag on another line has the same tokens on moved lines, and is read alike.

* `lexemes_moved` — the tokens of a tag on a moved line.
* `Keyword.read_alike` — block tags with alike tokens, where assignments have to be allowed.
* `Tag.Alike.lexemes` — tags that are alike have alike tokens.
-/

variable {k : Likeness}

/-! ### Tokens on moved lines -/

/-- The token on a moved line. -/
def Lexeme.moved (k : Likeness) (l : Lexeme) : Lexeme := { l with line := k.moved l.line }

/-- The beginning of a token on a moved line. -/
def Unfinished.moved (k : Likeness) : Unfinished → Unfinished
  | nothing => nothing
  | word s line => word s (k.moved line)
  | number n line => number n (k.moved line)
  | quotation quote s escaped line => quotation quote s escaped (k.moved line)
  | operator c line => operator c (k.moved line)

namespace Lexer

/-- The lexer on a moved line. -/
def moved (k : Likeness) (l : Lexer) : Lexer :=
  ⟨k.moved l.line, l.done.map (Lexeme.moved k), l.current.moved k⟩

theorem begin_moved (l : Lexer) (c : Char) :
    (l.moved k).begin c = (l.begin c).map (moved k) := by
  unfold begin
  split_ifs <;> rfl

theorem settle_moved (l : Lexer) : (l.moved k).settle = l.settle.map (moved k) := by
  obtain ⟨line, done, current⟩ := l
  cases current with
  | number n line =>
    simp only [settle, moved, Unfinished.moved]
    split <;> rfl
  | operator c line =>
    by_cases hc : c = '='
    · subst hc
      rfl
    · have hnone : ∀ line done l, settle ⟨line, done, .operator c l⟩ = none := by
        intro line done l
        unfold settle
        split <;> simp_all
      rw [moved, Unfinished.moved, hnone, hnone, Option.map_none]
  | _ => rfl

/-- A character of another kind ends a token and begins the next. -/
theorem settle_begin_moved (l : Lexer) (c : Char) :
    ((l.moved k).settle >>= fun l => l.begin c) =
      (l.settle >>= fun l => l.begin c).map (moved k) := by
  rw [settle_moved]
  cases l.settle with
  | none => rfl
  | some l => exact begin_moved l c

theorem read_moved (l : Lexer) (c : Char) : (l.moved k).read c = (l.read c).map (moved k) := by
  have hsettle := settle_begin_moved (k := k) l c
  obtain ⟨line, done, current⟩ := l
  cases current with
  | nothing => exact begin_moved _ c
  | word s line =>
    simp only [read, moved, Unfinished.moved] at hsettle ⊢
    split
    · rfl
    · exact hsettle
  | number n line =>
    simp only [read, moved, Unfinished.moved] at hsettle ⊢
    split
    · rfl
    · exact hsettle
  | quotation quote s escaped line =>
    simp only [read, moved, Unfinished.moved]
    split_ifs
    · rfl
    · rfl
    · cases unescape s.reverse <;> rfl
    · rfl
  | operator first line =>
    simp only [read, moved, Unfinished.moved] at hsettle ⊢
    split
    · rfl
    · exact hsettle

theorem step_moved (l : Lexer) (c : Char) : (l.moved k).step c = (l.step c).map (moved k) := by
  simp only [step, read_moved, Option.map_map]
  congr 1
  funext l
  simp only [Function.comp_apply, moved, k.moved_lineAfter]

theorem run_moved (l : Lexer) (body : List Char) :
    (l.moved k).run body = (l.run body).map (moved k) := by
  induction body generalizing l with
  | nil => rfl
  | cons c body ih =>
    simp only [run, List.foldlM_cons, step_moved]
    cases l.step c with
    | none => rfl
    | some l => exact ih l

end Lexer

/-- **The tokens of a tag on a moved line** are on moved lines. -/
theorem lexemes_moved (line : Nat) (body : List Char) :
    lexemes (k.moved line) body = (lexemes line body).map (List.map (Lexeme.moved k)) := by
  have hrun : (Lexer.start (k.moved line)).run body =
      ((Lexer.start line).run body).map (Lexer.moved k) := Lexer.run_moved (Lexer.start line) body
  simp only [lexemes, hrun]
  cases (Lexer.start line).run body with
  | none => rfl
  | some l =>
    show (do return (← (l.moved k).settle).done.reverse) = _
    rw [Lexer.settle_moved]
    cases h : l.settle with
    | none => simp [h]
    | some l => simp [h, Lexer.moved]

/-! ### Block tags -/

section Keywords

variable {input input' : List Lexeme}

theorem complete_alike {α : Type} {R : α → α → Prop} {r : Read α input} {r' : Read α input'}
    (h : r.Alike (Lexeme.Alike k) R r') :
    Option.Rel R (Keyword.complete r) (Keyword.complete r') := by
  have hempty : r'.rest.isEmpty = r.rest.isEmpty := by
    rw [Bool.eq_iff_iff, List.isEmpty_iff_length_eq_zero, List.isEmpty_iff_length_eq_zero,
      h.rest.length_eq]
  simp only [Keyword.complete, hempty]
  split
  · exact .some h.value
  · exact .none

theorem wholeExpr_alike (h : List.Forall₂ (Lexeme.Alike k) input input') :
    Option.Rel (Expr.Alike k) (Keyword.wholeExpr input) (Keyword.wholeExpr input') :=
  rel_bind (Expr.read_alike h) fun _ _ hr => complete_alike hr

theorem readLoop_alike (h : List.Forall₂ (Lexeme.Alike k) input input') :
    Option.Rel (Keyword.Alike k) (Keyword.readLoop input) (Keyword.readLoop input') := by
  simp only [Keyword.readLoop]
  refine rel_bind (Expr.anyWord_alike h) fun target target' htarget => ?_
  rw [htarget.value.1]
  refine rel_bind (rel_refl (bindable target.value)) ?_
  rintro name _ rfl
  refine rel_bind (Expr.expectWord_alike "in" htarget.rest) fun i i' hi => ?_
  refine rel_bind (Expr.readDisjunction_alike hi.rest) fun source source' hsource => ?_
  obtain ⟨hc, hc'⟩ | ⟨c, c', hc, hc', hif⟩ := rel_cases (Expr.expectWord_alike "if" hsource.rest)
  · rw [hc, hc']
    exact rel_bind (complete_alike hsource) fun _ _ hs => .some (.loop name hs .none)
  · rw [hc, hc']
    exact rel_bind (wholeExpr_alike hif.rest) fun _ _ hkeep =>
      .some (.loop name hsource.value (.some hkeep))

theorem readAssign_alike (hassigns : k.assigns) (h : List.Forall₂ (Lexeme.Alike k) input input') :
    Option.Rel (Keyword.Alike k) (Keyword.readAssign input) (Keyword.readAssign input') := by
  simp only [Keyword.readAssign]
  refine rel_bind (Expr.anyWord_alike h) fun target target' htarget => ?_
  rw [htarget.value.1]
  refine rel_bind (rel_refl (bindable target.value)) ?_
  rintro name _ rfl
  refine rel_bind (Expr.expectSymbol_alike '=' htarget.rest) fun eq eq' heq => ?_
  exact rel_bind (wholeExpr_alike heq.rest) fun _ _ he => .some (.assign hassigns name he)

theorem alone_alike {w : Keyword} (hw : w.Alike k w)
    (h : List.Forall₂ (Lexeme.Alike k) input input') :
    Option.Rel (Keyword.Alike k) (Keyword.alone w input) (Keyword.alone w input') := by
  cases h with
  | nil => exact .some hw
  | cons _ _ => exact .none

/-- **Block tags.**  The first word decides; only an assignment begins with `set`. -/
theorem Keyword.read_alike (h : List.Forall₂ (Lexeme.Alike k) input input')
    (hassigns : (input.map Lexeme.token).head? = some (.word "set") → k.assigns) :
    Option.Rel (Keyword.Alike k) (Keyword.read input) (Keyword.read input') := by
  cases h with
  | nil => exact .none
  | @cons l l' rest rest' hl hrest =>
    simp only [Keyword.read, hl.token]
    split
    · exact readLoop_alike hrest
    · exact rel_map (wholeExpr_alike hrest) fun _ _ => .condition
    · exact rel_map (wholeExpr_alike hrest) fun _ _ => .orCondition
    · exact alone_alike .otherwise hrest
    · exact alone_alike .endCondition hrest
    · exact alone_alike .endLoop hrest
    · exact readAssign_alike (hassigns (by simp [*])) hrest
    · exact .none

end Keywords

/-! ### Tags -/

namespace Tag.Alike

variable {t t' : Tag}

/-- Tags that are alike have alike tokens. -/
theorem lexemes (h : t.Alike k t') (hkind : t.kind = .output ∨ t.kind = .block) :
    Option.Rel (fun ls ls' => List.Forall₂ (Lexeme.Alike k) ls ls' ∧ ls.map Lexeme.token = t.tokens)
      (lexemes t.line t.body) (lexemes t'.line t'.body) := by
  rw [h.line, h.body, lexemes_moved]
  cases hlexemes : Template.lexemes t.line t.body with
  | none => exact .none
  | some ls =>
    have htokens : ls.map Lexeme.token = t.tokens := by
      rw [tokens, if_pos hkind, hlexemes, Option.getD_some]
    refine .some ⟨?_, htokens⟩
    rw [List.forall₂_map_right_iff, List.forall₂_same]
    intro l hl
    refine ⟨rfl, rfl, fun w hw => h.words w ?_⟩
    rw [Tag.words, ← htokens, List.mem_filterMap]
    exact ⟨l.token, List.mem_map_of_mem hl, by rw [hw]⟩

end Tag.Alike

end ReleaseArtifacts.Template
