import ReleaseArtifacts.Proofs.Template.Literal

namespace ReleaseArtifacts.Template

/-!
# Where statements stop

The rules by which a failure inside a tag ends the run of a template, beside those by which its text
is put together.

* `Stops scope statements stop` — running the statements stops.
* `Stops.append` — what comes before has to print; `Stops.loop` — the first round of a loop stops.
* `Stops.segments` — the first undefined value between literal text stops.
-/

/-- A filter that refuses the values of its operand and its arguments. -/
theorem eval_filter_error {scope : Scope} {line : Nat} {e : Expr} {es : List Expr} {v : Value}
    {vs : List Value} {f : String} {reason : Failure} (he : e.eval scope line = .ok v)
    (hes : Expr.evalAll scope (e.lastLine line) es = .ok vs)
    (hf : applyFilter f (v :: vs) = .error reason) :
    (Expr.filter f e es).eval scope line =
      .error ⟨Expr.lastLineOf (e.lastLine line) es, reason⟩ := by
  rw [Expr.eval, he, ok_bind, hes, ok_bind, hf]
  rfl

/-- Running the statements stops. -/
def Stops (scope : Scope) (statements : List Statement) (stop : Stop) : Prop :=
  Statement.runAll scope statements = .error stop

namespace Stops

variable {scope : Scope} {line : Nat} {rest : List Statement} {stop : Stop} {t : String}

theorem first {s : Statement} (hs : s.run scope = .error stop) : Stops scope (s :: rest) stop := by
  rw [Stops, Statement.runAll, hs, error_bind]

/-- Statements that print do not change where the others stop. -/
theorem append {front : List Statement} (hfront : Prints scope front t)
    (h : Stops scope rest stop) : Stops scope (front ++ rest) stop := by
  have hf : Statement.runAll scope front = .ok (scope, t) := hfront
  have hr : Statement.runAll scope rest = .error stop := h
  rw [Stops, runAll_append, hf]
  simp only [ok_bind, hr, error_bind]

/-- A text, and an output tag whose value cannot be found. -/
theorem labelled {e : Expr} (label : String) (he : e.eval scope line = .error stop) :
    Stops scope (.text label :: .output line e :: rest) stop := by
  have hs : (Statement.output line e).run scope = .error stop := by
    simp only [Statement.run, he]
    rfl
  exact append (Prints.text label (.nil scope)) (first hs)

/-- An output tag whose value is undefined. -/
theorem unprinted {e : Expr} (he : e.eval scope line = .ok .undefined) :
    Stops scope (.output line e :: rest) ⟨e.lastLine line, .undefinedValue⟩ := by
  refine first ?_
  simp only [Statement.run, he]
  rfl

/-- **Loops.**  A loop stops in its first round. -/
theorem loop {α : Type} {value : α → Value} {target : String} {source : Expr}
    {body : List Statement} {x : α} {items : List α}
    (hsource : source.eval scope line = .ok (.list ((x :: items).map value)))
    (hbody : ∀ s', s'.find target = value x → scope.SameBut target s' → Stops s' body stop) :
    Stops scope (.loop line target source none body [] :: rest) stop := by
  have hitems : located (source.lastLine line) (elements (.list ((x :: items).map value))) =
      .ok ((x :: items).map value) := rfl
  let total := ((x :: items).map value).length
  let s' := scope.enter.advance target (value x) (loopObject 0 total)
  have hround : Statement.runAll s' body = .error stop :=
    hbody s' (Scope.find_advance_self ..) ((Scope.sameBut_enter target scope).advance _ _)
  have hrounds : iterate (fun s => Statement.runAll s body) target total 0 scope.enter
      ((x :: items).map value) = .error stop := by
    rw [List.map_cons, iterate, hround, error_bind]
  refine first ?_
  simp only [Statement.run, hsource, ok_bind, hitems, pure_bind]
  show (iterate (fun s => Statement.runAll s body) target total 0 scope.enter
    ((x :: items).map value) >>= fun out => _) = _
  rw [hrounds, error_bind]

/-- **The first undefined value stops the template,** and the line it is reported on is that of its
    tag: the literal texts up to the tag are counted through. -/
theorem segments {α : Type} {segment : α → Segment} {before after : List α} {x : α}
    (hbefore : ∀ y ∈ before, ∀ line n, ∃ v, v ≠ .undefined ∧
      ((segment y).tag.expr n).eval scope line = .ok v)
    (hx : ∀ line n, ((segment x).tag.expr n).eval scope line = .ok .undefined)
    (hline : ∀ line n, ((segment x).tag.expr n).lastLine line = n) (last : List Char) (line : Nat) :
    Stops scope (statementsOf last line ((before ++ x :: after).map segment))
      ⟨(before.flatMap (fun y => (segment y).literal) ++ (segment x).literal).foldl lineAfter line,
        .undefinedValue⟩ := by
  induction before generalizing line with
  | nil =>
    let tagLine := (segment x).tagLine line
    have hstops : Stops scope (.output tagLine ((segment x).tag.expr tagLine) ::
        statementsOf last tagLine (after.map segment)) ⟨_, .undefinedValue⟩ :=
      unprinted (hx tagLine tagLine)
    rw [hline] at hstops
    exact hstops.append (Prints.text _ (.nil scope))
  | cons y before ih =>
    obtain ⟨v, hv, hy⟩ := hbefore y (by simp) ((segment y).tagLine line) ((segment y).tagLine line)
    have hprints : Prints scope [.text (String.ofList (segment y).literal),
        (segment y).tag.statement ((segment y).tagLine line)] _ :=
      .text _ <| .shown hy hv <| .nil scope
    have hrest := ih (fun z hz => hbefore z (by simp [hz])) ((segment y).tagLine line)
    rw [List.flatMap_cons, List.append_assoc, List.foldl_append]
    exact hrest.append hprints

end Stops

end ReleaseArtifacts.Template
