import ReleaseArtifacts.Template.Statement
import Mathlib.Data.List.Forall2

namespace ReleaseArtifacts.Template

/-!
# Templates that are alike

Two templates are alike if they differ in nothing but the lines they are on.  The same relation says
which names a template uses: a template is like itself only in a likeness that allows all of them.

* `Likeness` — the names that are allowed, how lines are moved, and whether names may be assigned.
* `Lexeme.Alike`, `Expr.Alike`, `Keyword.Alike`, `Statement.Alike` — tokens, expressions, block tags
  and statements that are alike, one rule for each form.
* `Tag.Alike`, `Chunk.Alike`, `Item.Alike` — the same tags on moved lines, and the parts of a
  template with such tags.
-/

/-- In what templates may differ, and what they may use. -/
structure Likeness where
  /-- the names that may occur -/
  name : String → Prop
  /-- the line of the second template for a line of the first -/
  moved : Nat → Nat
  moved_lineAfter : ∀ line c, moved (lineAfter line c) = lineAfter (moved line) c
  /-- names may be assigned -/
  assigns : Prop

/-- The likeness of templates to themselves: no line is moved. -/
def Likeness.still (name : String → Prop) (assigns : Prop) : Likeness where
  name := name
  moved := id
  moved_lineAfter _ _ := rfl
  assigns := assigns

/-! ### Tokens and expressions -/

/-- The same token, which uses no other names, on a moved line. -/
structure Lexeme.Alike (k : Likeness) (l l' : Lexeme) : Prop where
  token : l'.token = l.token
  line : l'.line = k.moved l.line
  word : ∀ w, l.token = .word w → k.name w

section Expressions

variable {k : Likeness}

mutual

/-- The same expression, which uses no other names, on moved lines. -/
inductive Expr.Alike (k : Likeness) : Expr → Expr → Prop
  | name {x : String} (line : Nat) (hx : k.name x) : Alike k (.name line x) (.name (k.moved line) x)
  | literal (line : Nat) (v : Value) : Alike k (.literal line v) (.literal (k.moved line) v)
  | list {items items' : List Expr} (h : AlikeAll k items items') :
    Alike k (.list items) (.list items')
  | field {e e' : Expr} (h : Alike k e e') (x : String) : Alike k (.field e x) (.field e' x)
  | item {e e' key key' : Expr} (h : Alike k e e') (hkey : Alike k key key') :
    Alike k (.item e key) (.item e' key')
  | not {e e' : Expr} (h : Alike k e e') : Alike k (.not e) (.not e')
  | negative {e e' : Expr} (h : Alike k e e') : Alike k (.negative e) (.negative e')
  | binary {a a' b b' : Expr} (op : BinaryOp) (ha : Alike k a a') (hb : Alike k b b') :
    Alike k (.binary op a b) (.binary op a' b')
  | and {a a' b b' : Expr} (ha : Alike k a a') (hb : Alike k b b') :
    Alike k (.and a b) (.and a' b')
  | or {a a' b b' : Expr} (ha : Alike k a a') (hb : Alike k b b') : Alike k (.or a b) (.or a' b')
  | choice {a a' c c' b b' : Expr} (ha : Alike k a a') (hc : Alike k c c') (hb : Alike k b b') :
    Alike k (.choice a c b) (.choice a' c' b')
  | isDefined {e e' : Expr} (h : Alike k e e') : Alike k (.isDefined e) (.isDefined e')
  | filter {e e' : Expr} {es es' : List Expr} (f : String) (h : Alike k e e')
    (hes : AlikeAll k es es') : Alike k (.filter f e es) (.filter f e' es')
  | call {f : String} {es es' : List Expr} (hf : k.name f) (hes : AlikeAll k es es') :
    Alike k (.call f es) (.call f es')

/-- Expressions that are alike one by one. -/
inductive Expr.AlikeAll (k : Likeness) : List Expr → List Expr → Prop
  | nil : AlikeAll k [] []
  | cons {e e' : Expr} {es es' : List Expr} (h : Alike k e e') (hes : AlikeAll k es es') :
    AlikeAll k (e :: es) (e' :: es')

end

theorem Expr.AlikeAll.of_forall₂ {es es' : List Expr} (h : List.Forall₂ (Expr.Alike k) es es') :
    Expr.AlikeAll k es es' := by
  induction h with
  | nil => exact .nil
  | cons h _ ih => exact .cons h ih

end Expressions

/-! ### Block tags -/

/-- The same block tag with alike expressions. -/
inductive Keyword.Alike (k : Likeness) : Keyword → Keyword → Prop
  | loop {source source' : Expr} {keep keep' : Option Expr} (target : String)
    (hsource : source.Alike k source') (hkeep : Option.Rel (Expr.Alike k) keep keep') :
    Alike k (.loop target source keep) (.loop target source' keep')
  | condition {e e' : Expr} (h : e.Alike k e') : Alike k (.condition e) (.condition e')
  | orCondition {e e' : Expr} (h : e.Alike k e') : Alike k (.orCondition e) (.orCondition e')
  | otherwise : Alike k .otherwise .otherwise
  | endCondition : Alike k .endCondition .endCondition
  | endLoop : Alike k .endLoop .endLoop
  | assign {e e' : Expr} (hassigns : k.assigns) (x : String) (h : e.Alike k e') :
    Alike k (.assign x e) (.assign x e')

/-! ### Statements -/

section Statements

variable {k : Likeness} {s s' t t' : List Statement}

mutual

/-- The same statement with alike expressions, on a moved line. -/
inductive Statement.Alike (k : Likeness) : Statement → Statement → Prop
  | text (s : String) : Alike k (.text s) (.text s)
  | output {e e' : Expr} (line : Nat) (h : e.Alike k e') :
    Alike k (.output line e) (.output (k.moved line) e')
  | assign {e e' : Expr} (hassigns : k.assigns) (line : Nat) (x : String) (h : e.Alike k e') :
    Alike k (.assign line x e) (.assign (k.moved line) x e')
  | branch {c c' : Expr} {yes yes' no no' : List Statement} (line : Nat) (hc : c.Alike k c')
    (hyes : AlikeAll k yes yes') (hno : AlikeAll k no no') :
    Alike k (.branch line c yes no) (.branch (k.moved line) c' yes' no')
  | loop {source source' : Expr} {keep keep' : Option Expr} {body body' no no' : List Statement}
    (line : Nat) (target : String) (hsource : source.Alike k source')
    (hkeep : Option.Rel (Expr.Alike k) keep keep') (hbody : AlikeAll k body body')
    (hno : AlikeAll k no no') :
    Alike k (.loop line target source keep body no)
      (.loop (k.moved line) target source' keep' body' no')

/-- Statements that are alike one by one. -/
inductive Statement.AlikeAll (k : Likeness) : List Statement → List Statement → Prop
  | nil : AlikeAll k [] []
  | cons {s s' : Statement} {rest rest' : List Statement} (h : Alike k s s')
    (hrest : AlikeAll k rest rest') : AlikeAll k (s :: rest) (s' :: rest')

end

namespace Statement.AlikeAll

theorem iff_forall₂ : AlikeAll k s s' ↔ List.Forall₂ (Statement.Alike k) s s' := by
  constructor
  · intro h
    induction s generalizing s' with
    | nil =>
      cases h
      exact .nil
    | cons _ _ ih =>
      cases h with
      | cons h hrest => exact .cons h (ih hrest)
  · intro h
    induction h with
    | nil => exact .nil
    | cons h _ ih => exact .cons h ih

theorem reverse (h : AlikeAll k s s') : AlikeAll k s.reverse s'.reverse :=
  iff_forall₂.mpr (List.rel_reverse (iff_forall₂.mp h))

theorem append (h : AlikeAll k s s') (ht : AlikeAll k t t') : AlikeAll k (s ++ t) (s' ++ t') :=
  iff_forall₂.mpr (List.rel_append (iff_forall₂.mp h) (iff_forall₂.mp ht))

end Statement.AlikeAll

end Statements

/-! ### Tags -/

namespace Tag

/-- The tokens in a tag.  Comments and verbatim sections have none. -/
def tokens (t : Tag) : List Token :=
  if t.kind = .output ∨ t.kind = .block then ((lexemes t.line t.body).getD []).map Lexeme.token
  else []

/-- The words in a tag, keywords and fields among them. -/
def words (t : Tag) : List String :=
  t.tokens.filterMap fun
    | .word w => some w
    | _ => none

/-- The tag assigns a name. -/
def Assigns (t : Tag) : Prop := t.kind = .block ∧ t.tokens.head? = some (.word "set")

instance (t : Tag) : Decidable t.Assigns := inferInstanceAs (Decidable (_ ∧ _))

/-- The same tag, which uses no other names, on a moved line. -/
structure Alike (k : Likeness) (t t' : Tag) : Prop where
  kind : t'.kind = t.kind
  line : t'.line = k.moved t.line
  opening : t'.opening = t.opening
  closing : t'.closing = t.closing
  body : t'.body = t.body
  words : ∀ w ∈ t.words, k.name w
  assigns : t.Assigns → k.assigns

theorem alike_still {name : String → Prop} {assigns : Prop} {t : Tag}
    (hwords : ∀ w ∈ t.words, name w) (hassigns : t.Assigns → assigns) :
    t.Alike (.still name assigns) t :=
  ⟨rfl, rfl, rfl, rfl, rfl, hwords, hassigns⟩

end Tag

/-- The same text, and alike tags after it. -/
structure Chunk.Alike (k : Likeness) (c c' : Chunk) : Prop where
  text : c'.1 = c.1
  tag : c.2.Alike k c'.2

/-- The same text, or alike tags. -/
inductive Item.Alike (k : Likeness) : Item → Item → Prop
  | text (s : List Char) : Alike k (.text s) (.text s)
  | tag {t t' : Tag} (h : t.Alike k t') : Alike k (.tag t) (.tag t')

end ReleaseArtifacts.Template
