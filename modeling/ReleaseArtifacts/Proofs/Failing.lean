namespace ReleaseArtifacts

/-!
# Steps that can fail

* `ok_bind`, `error_bind` — what comes after a step that succeeds, or fails.
* `bind_eq_ok_iff` — when two steps succeed.
* `fault?` — the fault of a step that fails, and `fault?_bind`, which of two faults counts.
-/

variable {ε α β : Type}

/-- A step that succeeds hands on its value. -/
@[simp] theorem ok_bind (a : α) (f : α → Except ε β) : (Except.ok a >>= f) = f a := rfl

/-- A step that fails ends everything after it. -/
@[simp] theorem error_bind (e : ε) (f : α → Except ε β) : (Except.error e >>= f) = .error e := rfl

/-- Two steps succeed exactly if the first one does, and the second one with its value. -/
theorem bind_eq_ok_iff {x : Except ε α} {f : α → Except ε β} {b : β} :
    (x >>= f) = .ok b ↔ ∃ a, x = .ok a ∧ f a = .ok b := by
  cases x with
  | error e => simp
  | ok a => simp

/-! ### Faults -/

/-- The fault of a step, if it fails. -/
def fault? (x : Except ε α) : Option ε :=
  match x with
  | .ok _ => none
  | .error e => some e

@[simp] theorem fault?_ok (a : α) : fault? (.ok a : Except ε α) = none := rfl

@[simp] theorem fault?_pure (a : α) : fault? (pure a : Except ε α) = none := rfl

@[simp] theorem fault?_error (e : ε) : fault? (.error e : Except ε α) = some e := rfl

theorem fault?_eq_some_iff {x : Except ε α} {e : ε} : fault? x = some e ↔ x = .error e := by
  cases x <;> simp

theorem fault?_eq_none_iff {x : Except ε α} : fault? x = none ↔ ∃ a, x = .ok a := by
  cases x <;> simp

/-- The fault of the first step counts, then that of the second one, if it is the same for all
    values of the first. -/
theorem fault?_bind {x : Except ε α} {f : α → Except ε β} {o : Option ε}
    (h : ∀ a, fault? (f a) = o) : fault? (x >>= f) = (fault? x).or o := by
  cases x with
  | error e => rfl
  | ok a => rw [ok_bind, h a, fault?_ok, Option.none_or]

end ReleaseArtifacts
