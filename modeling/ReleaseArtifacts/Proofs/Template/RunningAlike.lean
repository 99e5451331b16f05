import ReleaseArtifacts.Proofs.Failing
import ReleaseArtifacts.Proofs.Template.Likeness
import ReleaseArtifacts.Template.Render

namespace ReleaseArtifacts.Template

/-!
# Running statements alike

Statements that are alike do the same in scopes that agree on the names they use, apart from the
line on which they stop.

* `Scope.Alike` — scopes with the same frames, whose globals agree on the allowed names.
* `Expr.eval_alike` — expressions that are alike have the same value.
* `Ran.Alike` — two runs that print the same and leave scopes that are alike, or stop for the same
  reason.  `Statement.run_alike` shows that all statements run so.
* `Statement.run_keeps` — where no assignments are allowed, a statement leaves the scope as it was.
* `render_alike` — templates that are alike print the same.
-/

variable {k : Likeness} {s s' : Scope}

/-! ### Where they stop -/

/-- The same stop on a moved line. -/
def Likeness.stop (k : Likeness) (stop : Stop) : Stop := { stop with line := k.moved stop.line }

theorem Likeness.stop_still (name : String → Prop) (assigns : Prop) :
    (Likeness.still name assigns).stop = id := rfl

theorem located_moved {α : Type} (line : Nat) (r : Except Failure α) :
    located (k.moved line) r = (located line r).mapError k.stop := by
  cases r <;> rfl

mutual

theorem Expr.lastLine_alike {e e' : Expr} (h : e.Alike k e') (line : Nat) :
    e'.lastLine (k.moved line) = k.moved (e.lastLine line) := by
  cases h with
  | name | literal => rfl
  | list h => exact Expr.lastLineOf_alike h line
  | field h | not h | negative h | isDefined h => exact Expr.lastLine_alike h line
  | item ha hb | binary _ ha hb | and ha hb | or ha hb =>
    simp only [Expr.lastLine, Expr.lastLine_alike ha, Expr.lastLine_alike hb]
  | choice ha hc hb =>
    simp only [Expr.lastLine, Expr.lastLine_alike hc, Expr.lastLine_alike ha,
      Expr.lastLine_alike hb]
  | filter f h hes => simp only [Expr.lastLine, Expr.lastLine_alike h, Expr.lastLineOf_alike hes]
  | call hf hes => exact Expr.lastLineOf_alike hes line

theorem Expr.lastLineOf_alike {es es' : List Expr} (h : Expr.AlikeAll k es es') (line : Nat) :
    Expr.lastLineOf (k.moved line) es' = k.moved (Expr.lastLineOf line es) := by
  cases h with
  | nil => rfl
  | cons h hes => simp only [Expr.lastLineOf, Expr.lastLine_alike h, Expr.lastLineOf_alike hes]

end

/-! ### Scopes -/

/-- Scopes with the same frames, whose globals agree on all names that are allowed. -/
structure Scope.Alike (k : Likeness) (s s' : Scope) : Prop where
  top : s'.top = s.top
  outer : s'.outer = s.outer
  globals : ∀ x, k.name x → s'.globals.lookup x = s.globals.lookup x

namespace Scope.Alike

theorem ofGlobals {globals globals' : List (String × Value)}
    (h : ∀ x, k.name x → globals'.lookup x = globals.lookup x) :
    (Scope.ofGlobals globals).Alike k (Scope.ofGlobals globals') :=
  ⟨rfl, rfl, h⟩

theorem refl (s : Scope) : s.Alike k s := ⟨rfl, rfl, fun _ _ => rfl⟩

theorem find (h : s.Alike k s') {x : String} (hx : k.name x) : s'.find x = s.find x := by
  simp only [Scope.find, h.top, h.outer, h.globals x hx]

theorem bind (h : s.Alike k s') (x : String) (v : Value) : (s.bind x v).Alike k (s'.bind x v) :=
  ⟨by simp only [Scope.bind, h.top], h.outer, h.globals⟩

theorem enter (h : s.Alike k s') : s.enter.Alike k s'.enter :=
  ⟨rfl, by simp only [Scope.enter, h.top, h.outer], h.globals⟩

theorem advance (h : s.Alike k s') (target : String) (v loop : Value) :
    (s.advance target v loop).Alike k (s'.advance target v loop) :=
  ⟨by simp only [Scope.advance, h.top], h.outer, h.globals⟩

end Scope.Alike

/-! ### Expressions -/

theorem mapError_bind {ε ε' α β : Type} (g : ε → ε') (x : Except ε α) (f : α → Except ε β) :
    (x >>= f).mapError g = x.mapError g >>= fun a => (f a).mapError g := by
  cases x <;> rfl

theorem callNamed_alike (hs : s.Alike k s') {f : String} (hf : k.name f) (vs : List Value) :
    callNamed s' f vs = callNamed s f vs := by
  rw [callNamed, callNamed, hs.find hf]

mutual

/-- **Expressions that are alike** have the same value, or fail for the same reason. -/
theorem Expr.eval_alike {e e' : Expr} (h : e.Alike k e') (hs : s.Alike k s') (line : Nat) :
    e'.eval s' (k.moved line) = (e.eval s line).mapError k.stop := by
  cases h with
  | name line hx => simp only [Expr.eval, hs.find hx, Except.mapError]
  | literal => rfl
  | list h =>
    simp only [Expr.eval, Expr.evalAll_alike h hs, mapError_bind]
    rfl
  | field h x =>
    simp only [Expr.eval, Expr.eval_alike h hs, Expr.lastLine_alike h, located_moved, mapError_bind]
    rfl
  | item h hkey =>
    simp only [Expr.eval, Expr.eval_alike h hs, Expr.eval_alike hkey hs, Expr.lastLine_alike h,
      Expr.lastLine_alike hkey, located_moved, mapError_bind]
    rfl
  | not h =>
    simp only [Expr.eval, Expr.eval_alike h hs, Expr.lastLine_alike h, located_moved, mapError_bind]
    rfl
  | negative h =>
    simp only [Expr.eval, Expr.eval_alike h hs, Expr.lastLine_alike h, located_moved, mapError_bind]
  | binary op ha hb =>
    simp only [Expr.eval, Expr.eval_alike ha hs, Expr.eval_alike hb hs, Expr.lastLine_alike ha,
      Expr.lastLine_alike hb, located_moved, mapError_bind]
  | and ha hb =>
    simp only [Expr.eval, Expr.eval_alike ha hs, Expr.eval_alike hb hs, Expr.lastLine_alike ha,
      located_moved, mapError_bind, apply_ite]
    rfl
  | or ha hb =>
    simp only [Expr.eval, Expr.eval_alike ha hs, Expr.eval_alike hb hs, Expr.lastLine_alike ha,
      located_moved, mapError_bind, apply_ite]
    rfl
  | choice ha hc hb =>
    simp only [Expr.eval, Expr.eval_alike ha hs, Expr.eval_alike hb hs, Expr.eval_alike hc hs,
      Expr.lastLine_alike ha, Expr.lastLine_alike hc, located_moved, mapError_bind, apply_ite]
  | isDefined h =>
    simp only [Expr.eval, Expr.eval_alike h hs, mapError_bind]
    congr 1
    funext v
    cases v <;> rfl
  | filter f h hes =>
    simp only [Expr.eval, Expr.eval_alike h hs, Expr.evalAll_alike hes hs, Expr.lastLine_alike h,
      Expr.lastLineOf_alike hes, located_moved, mapError_bind]
  | call hf hes =>
    simp only [Expr.eval, Expr.evalAll_alike hes hs, Expr.lastLineOf_alike hes,
      callNamed_alike hs hf, located_moved, mapError_bind]

theorem Expr.evalAll_alike {es es' : List Expr} (h : Expr.AlikeAll k es es') (hs : s.Alike k s')
    (line : Nat) :
    Expr.evalAll s' (k.moved line) es' = (Expr.evalAll s line es).mapError k.stop := by
  cases h with
  | nil => rfl
  | cons h hes =>
    simp only [Expr.evalAll, Expr.eval_alike h hs, Expr.evalAll_alike hes hs, Expr.lastLine_alike h,
      mapError_bind]
    rfl

end

/-! ### Statements -/

/-- Two runs that print the same and leave scopes that are alike, or that stop for the same
    reason. -/
inductive Ran.Alike (k : Likeness) :
    Except Stop (Scope × String) → Except Stop (Scope × String) → Prop
  | ok {s s' : Scope} (h : s.Alike k s') (out : String) : Alike k (.ok (s, out)) (.ok (s', out))
  | error (stop : Stop) : Alike k (.error stop) (.error (k.stop stop))

/-- After steps that find the same. -/
theorem Ran.Alike.after {α : Type} (x : Except Stop α) {f f' : α → Except Stop (Scope × String)}
    (hf : ∀ a, Ran.Alike k (f a) (f' a)) : Ran.Alike k (x >>= f) (x.mapError k.stop >>= f') := by
  cases x with
  | ok a => exact hf a
  | error stop => exact .error stop

/-- After runs that are alike. -/
theorem Ran.Alike.bind {x x' : Except Stop (Scope × String)} (h : Ran.Alike k x x')
    {f f' : Scope × String → Except Stop (Scope × String)}
    (hf : ∀ s s', s.Alike k s' → ∀ out, Ran.Alike k (f (s, out)) (f' (s', out))) :
    Ran.Alike k (x >>= f) (x' >>= f') := by
  cases h with
  | ok hs out => exact hf _ _ hs out
  | error stop => exact .error stop

theorem Ran.Alike.text {x x' : Except Stop (Scope × String)} (h : Ran.Alike k x x') :
    x'.map (·.2) = (x.map (·.2)).mapError k.stop := by
  cases h <;> rfl

theorem keptItems_alike {c c' : Expr} (hc : c.Alike k c') (hs : s.Alike k s') (line : Nat)
    (target : String) (items : List Value) :
    keptItems s' (k.moved line) target c' items =
      (keptItems s line target c items).mapError k.stop := by
  induction items with
  | nil => rfl
  | cons v items ih =>
    simp only [keptItems, Expr.eval_alike hc (hs.enter.bind target v), Expr.lastLine_alike hc,
      located_moved, ih, mapError_bind]
    rfl

/-- **Loops.**  In every round the body runs in scopes that are alike. -/
theorem iterate_alike {body body' : Scope → Except Stop (Scope × String)}
    (hbody : ∀ s s', s.Alike k s' → Ran.Alike k (body s) (body' s')) (hs : s.Alike k s')
    (target : String) (total index : Nat) (items : List Value) :
    iterate body' target total index s' items =
      (iterate body target total index s items).mapError k.stop := by
  induction items generalizing index s s' with
  | nil => rfl
  | cons v items ih =>
    have hround := hbody _ _ (hs.advance target v (loopObject index total))
    simp only [iterate]
    generalize body _ = x at hround
    generalize body' _ = x' at hround
    cases hround with
    | ok hs out =>
      -- The next round begins in the scopes that this one has left.
      simp only [ok_bind, ih hs, mapError_bind]
      rfl
    | error stop => rfl

/-- A loop over the items that it keeps, or its other body if there are none. -/
theorem rounds_alike {body body' : Scope → Except Stop (Scope × String)}
    {other other' : Except Stop (Scope × String)}
    (hbody : ∀ s s', s.Alike k s' → Ran.Alike k (body s) (body' s'))
    (hother : Ran.Alike k other other') (hs : s.Alike k s') (target : String)
    (items : List Value) :
    Ran.Alike k
      (if items.isEmpty then other else do
        let out ← iterate body target items.length 0 s.enter items
        return (s, out))
      (if items.isEmpty then other' else do
        let out ← iterate body' target items.length 0 s'.enter items
        return (s', out)) := by
  split
  · exact hother
  · rw [iterate_alike hbody hs.enter]
    exact .after _ fun out => .ok hs out

mutual

/-- **Statements that are alike** print the same, or stop for the same reason. -/
theorem Statement.run_alike {t t' : Statement} (h : t.Alike k t') {s s' : Scope}
    (hs : s.Alike k s') : Ran.Alike k (t.run s) (t'.run s') := by
  cases h with
  | text out => exact .ok hs out
  | output line he =>
    simp only [Statement.run, Expr.eval_alike he hs, Expr.lastLine_alike he, located_moved]
    exact .after _ fun v => .after _ fun out => .ok hs out
  | assign _ line x he =>
    simp only [Statement.run, Expr.eval_alike he hs]
    exact .after _ fun v => .ok (hs.bind x v) ""
  | branch line hc hyes hno =>
    simp only [Statement.run, Expr.eval_alike hc hs, Expr.lastLine_alike hc, located_moved]
    refine .after _ fun v => .after _ fun b => ?_
    cases b with
    | true => exact Statement.runAll_alike hyes hs
    | false => exact Statement.runAll_alike hno hs
  | loop line target hsource hkeep hbody hno =>
    simp only [Statement.run, Expr.eval_alike hsource hs, Expr.lastLine_alike hsource,
      located_moved]
    refine .after _ fun v => .after _ fun items => ?_
    have hrounds := rounds_alike (fun _ _ => Statement.runAll_alike hbody)
      (Statement.runAll_alike hno hs) hs target
    cases hkeep with
    | none => exact hrounds items
    | some hc =>
      simp only [keptItems_alike hc hs]
      exact .after _ hrounds

theorem Statement.runAll_alike {t t' : List Statement} (h : Statement.AlikeAll k t t')
    {s s' : Scope} (hs : s.Alike k s') :
    Ran.Alike k (Statement.runAll s t) (Statement.runAll s' t') := by
  cases h with
  | nil => exact .ok hs ""
  | cons h hrest =>
    simp only [Statement.runAll]
    refine (Statement.run_alike h hs).bind fun _ _ hnext out => ?_
    exact (Statement.runAll_alike hrest hnext).bind fun _ _ hlast more => .ok hlast (out ++ more)

end

/-! ### Without assignments -/

/-- A loop over items leaves the scope, and only its other body could change it. -/
theorem rounds_keeps {other : Except Stop (Scope × String)} {rounds : Except Stop String}
    {items : List Value} {out : String} (hother : other = .ok (s', out) → s' = s)
    (hrun : (if items.isEmpty then other else do
      let out ← rounds
      return (s, out)) = .ok (s', out)) : s' = s := by
  split at hrun
  · exact hother hrun
  · obtain ⟨text, -, hrun⟩ := bind_eq_ok_iff.mp hrun
    cases hrun
    rfl

mutual

/-- **Only assignments change the scope.**  The names that a loop binds end with it. -/
theorem Statement.run_keeps {t t' : Statement} (h : t.Alike k t') (hassigns : ¬ k.assigns)
    {s s' : Scope} {out : String} (hrun : t.run s = .ok (s', out)) : s' = s := by
  cases h with
  | text t =>
    cases hrun
    rfl
  | output line he =>
    simp only [Statement.run, bind_eq_ok_iff] at hrun
    obtain ⟨v, -, shown, -, hrun⟩ := hrun
    cases hrun
    rfl
  | assign h line x he => exact absurd h hassigns
  | branch line hc hyes hno =>
    simp only [Statement.run, bind_eq_ok_iff] at hrun
    obtain ⟨v, -, b, -, hrun⟩ := hrun
    cases b with
    | true => exact Statement.runAll_keeps hyes hassigns hrun
    | false => exact Statement.runAll_keeps hno hassigns hrun
  | loop line target hsource hkeep hbody hno =>
    simp only [Statement.run] at hrun
    obtain ⟨v, -, hrun⟩ := bind_eq_ok_iff.mp hrun
    obtain ⟨items, -, hrun⟩ := bind_eq_ok_iff.mp hrun
    cases hkeep with
    | none => exact rounds_keeps (Statement.runAll_keeps hno hassigns) hrun
    | some hc =>
      obtain ⟨kept, -, hrun⟩ := bind_eq_ok_iff.mp hrun
      exact rounds_keeps (Statement.runAll_keeps hno hassigns) hrun

theorem Statement.runAll_keeps {t t' : List Statement} (h : Statement.AlikeAll k t t')
    (hassigns : ¬ k.assigns) {s s' : Scope} {out : String}
    (hrun : Statement.runAll s t = .ok (s', out)) : s' = s := by
  cases h with
  | nil =>
    cases hrun
    rfl
  | cons h hrest =>
    simp only [Statement.runAll, bind_eq_ok_iff] at hrun
    obtain ⟨⟨mid, first⟩, hfirst, ⟨last, more⟩, hmore, hrun⟩ := hrun
    cases hrun
    rw [Statement.runAll_keeps hrest hassigns hmore, Statement.run_keeps h hassigns hfirst]

end

/-! ### Whole templates -/

/-- **Templates that are alike** print the same text from globals that agree on the names they use,
    or stop for the same reason. -/
theorem render_alike {t t' : List Statement} (h : Statement.AlikeAll k t t')
    {globals globals' : List (String × Value)}
    (hglobals : ∀ x, k.name x → globals'.lookup x = globals.lookup x) :
    render t' globals' = (render t globals).mapError k.stop :=
  (Statement.runAll_alike h (.ofGlobals hglobals)).text

end ReleaseArtifacts.Template
