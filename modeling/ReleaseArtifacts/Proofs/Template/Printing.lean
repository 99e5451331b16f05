import ReleaseArtifacts.Proofs.Failing
import ReleaseArtifacts.Template.Render

namespace ReleaseArtifacts.Template

/-!
# What statements print

The rules by which the text of a template is put together, one for each kind of statement.

* `Prints scope statements out` — the statements succeed, print `out`, and leave the scope as it
  was.
* `Scope.SameBut` — two scopes in which all names but the target of a loop mean the same.
* `Prints.loop` — a loop prints its body once for each item, in order.  The level of the loop lasts
  from item to item and grows; `SameBut` is the invariant that carries the induction.
* `eval_path` — a dotted name has the value that `follow` finds behind its fields.
-/

/-! ### Looking up names -/

namespace Scope

/-- All names but `target` and `loop` mean the same in both scopes. -/
def SameBut (target : String) (s s' : Scope) : Prop :=
  ∀ x, x ≠ target → x ≠ "loop" → s'.find x = s.find x

theorem find_ofGlobals (globals : List (String × Value)) (x : String) :
    (ofGlobals globals).find x = (globals.lookup x).getD .undefined := by
  have hnew : (Frame.mk [] none).find x = none := by simp [Frame.find]
  simp only [find, ofGlobals, List.findSome?_cons, hnew, List.findSome?_nil]

theorem find_enter (s : Scope) (x : String) : s.enter.find x = s.find x := by
  have hnew : (Frame.mk [] none).find x = none := by simp [Frame.find]
  simp only [find, enter, List.findSome?_cons, hnew]

theorem find_advance_self (s : Scope) (target : String) (v loop : Value) :
    (s.advance target v loop).find target = v := by
  simp [find, advance, Frame.find]

theorem sameBut_enter (target : String) (s : Scope) : SameBut target s s.enter :=
  fun x _ _ => find_enter s x

theorem SameBut.advance {target : String} {s s' : Scope} (h : SameBut target s s')
    (v loop : Value) : SameBut target s (s'.advance target v loop) := by
  intro x hx hloop
  have htop : (Frame.mk ((target, v) :: s'.top.bound) (some loop)).find x = s'.top.find x := by
    have hne : (x == target) = false := by simpa using hx
    simp only [Frame.find, List.lookup_cons, hne, if_neg hloop]
  rw [← h x hx hloop]
  simp only [find, Scope.advance, List.findSome?_cons, htop]

end Scope

/-! ### Values of dotted names -/

/-- A dotted name. -/
def path (line : Nat) (x : String) (fields : List String) : Expr :=
  fields.foldl Expr.field (.name line x)

/-- What stands behind some fields, if every value on the way is an object that has the next one. -/
def follow : Value → List String → Option Value
  | v, [] => some v
  | .object entries, f :: fields => (entries.lookup f).bind (follow · fields)
  | _, _ :: _ => none

theorem eval_fields {scope : Scope} {line : Nat} {e : Expr} {v w : Value} {fields : List String}
    (he : e.eval scope line = .ok v) (hv : follow v fields = some w) :
    (fields.foldl Expr.field e).eval scope line = .ok w := by
  -- On the fields: each of them makes the expression longer, so that it is not fixed.
  induction fields generalizing e v with
  | nil =>
    obtain rfl : v = w := by simpa [follow] using hv
    exact he
  | cons f fields ih =>
    cases v with
    | object entries =>
      obtain ⟨u, hu, hw⟩ := Option.bind_eq_some_iff.mp hv
      refine ih (e := .field e f) (v := u) ?_ hw
      simp only [Expr.eval, he]
      show Except.ok ((entries.lookup f).getD .undefined) = .ok u
      rw [hu, Option.getD_some]
    | _ => simp [follow] at hv

/-- **Dotted names.**  The value is looked up field by field. -/
theorem eval_path {scope : Scope} {line n : Nat} {x : String} {fields : List String} {w : Value}
    (h : follow (scope.find x) fields = some w) : (path n x fields).eval scope line = .ok w :=
  eval_fields rfl h

/-- The line of a dotted name is that of its first word. -/
theorem lastLine_path (line n : Nat) (x : String) (fields : List String) :
    (path n x fields).lastLine line = n := by
  have hfields : ∀ e : Expr, (fields.foldl Expr.field e).lastLine line = e.lastLine line := by
    induction fields with
    | nil => exact fun _ => rfl
    | cons f fields ih =>
      intro e
      rw [List.foldl_cons, ih, Expr.lastLine]
  rw [path, hfields, Expr.lastLine]

/-! ### Functions and filters -/

section Calls

variable {scope : Scope} {line : Nat} {e : Expr} {es : List Expr} {v out : Value} {vs : List Value}

theorem evalAll_cons (he : e.eval scope line = .ok v)
    (hes : Expr.evalAll scope (e.lastLine line) es = .ok vs) :
    Expr.evalAll scope line (e :: es) = .ok (v :: vs) := by
  rw [Expr.evalAll, he, ok_bind, hes]
  rfl

/-- A filter is applied to the values of its operand and its arguments. -/
theorem eval_filter {f : String} (he : e.eval scope line = .ok v)
    (hes : Expr.evalAll scope (e.lastLine line) es = .ok vs)
    (hf : applyFilter f (v :: vs) = .ok out) : (Expr.filter f e es).eval scope line = .ok out := by
  rw [Expr.eval, he, ok_bind, hes, ok_bind, hf]
  rfl

/-- A function that no value hides is applied to the values of its arguments. -/
theorem eval_call {f : String} (hes : Expr.evalAll scope line es = .ok vs)
    (hname : scope.find f = .undefined) (hf : callFunction f vs = .ok out) :
    (Expr.call f es).eval scope line = .ok out := by
  rw [Expr.eval, hes, ok_bind, callNamed, hname, hf]
  rfl

end Calls

/-! ### Statements -/

/-- Running statements goes on where it stopped. -/
theorem runAll_append (scope : Scope) (first rest : List Statement) :
    Statement.runAll scope (first ++ rest) = do
      let (scope, out) ← Statement.runAll scope first
      let (scope, more) ← Statement.runAll scope rest
      return (scope, out ++ more) := by
  -- On the statements: each of them starts in the scope that the one before it has left.
  induction first generalizing scope with
  | nil =>
    simp only [Statement.runAll, List.nil_append, ok_bind, String.empty_append]
    exact (bind_pure _).symm
  | cons s first ih =>
    rw [List.cons_append, Statement.runAll, Statement.runAll]
    simp only [ih, bind_assoc, pure_bind, String.append_assoc]

/-- The statements succeed, print `out`, and leave the scope as it was. -/
def Prints (scope : Scope) (statements : List Statement) (out : String) : Prop :=
  Statement.runAll scope statements = .ok (scope, out)

namespace Prints

variable {scope : Scope} {line : Nat} {rest : List Statement} {out t : String}

theorem of_eq {statements : List Statement} (h : Prints scope statements out) (ht : t = out) :
    Prints scope statements t := ht ▸ h

theorem nil (scope : Scope) : Prints scope [] "" := rfl

/-- What the first statement prints comes before what the others print. -/
theorem cons {s : Statement} (hs : s.run scope = .ok (scope, t)) (h : Prints scope rest out) :
    Prints scope (s :: rest) (t ++ out) := by
  have hrest : Statement.runAll scope rest = .ok (scope, out) := h
  simp only [Prints, Statement.runAll, hs]
  show (do let (s, more) ← Statement.runAll scope rest; Except.ok (s, t ++ more)) = _
  rw [hrest]
  rfl

/-- Literal text is printed as it is. -/
theorem text (t : String) (h : Prints scope rest out) : Prints scope (.text t :: rest) (t ++ out) :=
  cons rfl h

/-- An output tag prints its value, unless that is undefined. -/
theorem shown {e : Expr} {v : Value} (he : e.eval scope line = .ok v) (hv : v ≠ .undefined)
    (h : Prints scope rest out) : Prints scope (.output line e :: rest) (v.shown ++ out) := by
  refine cons ?_ h
  simp only [Statement.run, he]
  cases v <;> first | exact absurd rfl hv | rfl

/-- An output tag whose value is a text prints that text as it is. -/
theorem output {e : Expr} (he : e.eval scope line = .ok (.text t)) (h : Prints scope rest out) :
    Prints scope (.output line e :: rest) (t ++ out) :=
  shown he (by simp) h

/-- A text, and the value of an output tag after it. -/
theorem labelled {e : Expr} (label : String) (he : e.eval scope line = .ok (.text t))
    (h : Prints scope rest out) :
    Prints scope (.text label :: .output line e :: rest) (label ++ (t ++ out)) :=
  text label (output he h)

/-- A branch prints the side that its condition chooses. -/
theorem branch {c : Expr} {b : Bool} {yes no : List Statement}
    (hc : c.eval scope line = .ok (.boolean b)) (hside : Prints scope (if b then yes else no) t)
    (h : Prints scope rest out) : Prints scope (.branch line c yes no :: rest) (t ++ out) := by
  refine cons ?_ h
  simp only [Statement.run, hc]
  cases b <;> exact hside

/-- Statements one after the other. -/
theorem append {first : List Statement} (hfirst : Prints scope first t)
    (h : Prints scope rest out) : Prints scope (first ++ rest) (t ++ out) := by
  have hf : Statement.runAll scope first = .ok (scope, t) := hfirst
  have hr : Statement.runAll scope rest = .ok (scope, out) := h
  rw [Prints, runAll_append, hf]
  simp only [ok_bind, hr]
  rfl

/-- The body of a loop for each of the items that are left.  In every round the names other than the
    target mean what they meant before the loop. -/
theorem iterate_eq {α : Type} {value : α → Value} {f : α → String} {target : String}
    {body : List Statement} {items : List α} {total : Nat}
    (hbody : ∀ s', ∀ x ∈ items, s'.find target = value x → scope.SameBut target s' →
      Prints s' body (f x))
    (index : Nat) (s : Scope) (hs : scope.SameBut target s) :
    iterate (fun s => Statement.runAll s body) target total index s (items.map value) =
      .ok (String.join (items.map f)) := by
  induction items generalizing index s with
  | nil => rfl
  | cons x items ih =>
    -- The scope of this round, which its body leaves as it is.
    let s' := s.advance target (value x) (loopObject index total)
    have hs' : scope.SameBut target s' := hs.advance _ _
    have hround : Statement.runAll s' body = .ok (s', f x) :=
      hbody s' x (by simp) (Scope.find_advance_self ..) hs'
    have hrest := ih (fun s'' y hy => hbody s'' y (by simp [hy])) (index + 1) s' hs'
    rw [List.map_cons, iterate, hround]
    simp only [ok_bind, hrest]
    rw [List.map_cons, String.join_cons]
    rfl

/-- **Loops.**  A loop prints its body once for each item, in order. -/
theorem loop {α : Type} {value : α → Value} {f : α → String} {target : String} {source : Expr}
    {body : List Statement} {items : List α}
    (hsource : source.eval scope line = .ok (.list (items.map value)))
    (hbody : ∀ s', ∀ x ∈ items, s'.find target = value x → scope.SameBut target s' →
      Prints s' body (f x))
    (h : Prints scope rest out) :
    Prints scope (.loop line target source none body [] :: rest)
      (String.join (items.map f) ++ out) := by
  refine cons ?_ h
  have hitems : located (source.lastLine line) (elements (.list (items.map value))) =
      .ok (items.map value) := rfl
  simp only [Statement.run, hsource, ok_bind, hitems, pure_bind]
  -- A loop without items runs its other body, which is empty, in place of the rounds.
  cases items with
  | nil => rfl
  | cons x items =>
    rw [iterate_eq hbody 0 scope.enter (Scope.sameBut_enter target scope)]
    rfl

end Prints

end ReleaseArtifacts.Template
