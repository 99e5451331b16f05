import ReleaseArtifacts.Reader
import Mathlib.Data.List.Forall2

namespace ReleaseArtifacts

/-!
# Reading alike

A reader that treats alike symbols alike reads alike values from them.  Which symbols are alike is a
relation `T`, and which values are is a relation `R`; both are left open here.

* `Read.Alike T R` — two values read from the front of two inputs are alike, and so are the rests.
* `Reader.Alike T R` — two readers read alike from all inputs that are alike.
* `Reader.Alike.leftChain`, `Reader.Alike.separated` — readers made of such readers are alike too.
  All of them repeat a step, and `extend_alike` is the one induction.
-/

variable {τ α α' β β' : Type}

/-! ### Results that may be missing -/

section Results

variable {R : α → α' → Prop} {S : β → β' → Prop} {o : Option α} {o' : Option α'}

/-- Of two results that are alike both are missing or none. -/
theorem rel_cases (h : Option.Rel R o o') :
    o = none ∧ o' = none ∨ ∃ a a', o = some a ∧ o' = some a' ∧ R a a' := by
  cases h with
  | none => exact .inl ⟨rfl, rfl⟩
  | some h => exact .inr ⟨_, _, rfl, rfl, h⟩

theorem rel_bind {f : α → Option β} {f' : α' → Option β'} (h : Option.Rel R o o')
    (hf : ∀ a a', R a a' → Option.Rel S (f a) (f' a')) : Option.Rel S (o >>= f) (o' >>= f') := by
  cases h with
  | none => exact .none
  | some h => exact hf _ _ h

theorem rel_map {f : α → β} {f' : α' → β'} (h : Option.Rel R o o')
    (hf : ∀ a a', R a a' → S (f a) (f' a')) : Option.Rel S (o.map f) (o'.map f') := by
  cases h with
  | none => exact .none
  | some h => exact .some (hf _ _ h)

theorem rel_refl (o : Option α) : Option.Rel Eq o o := by
  cases o with
  | none => exact .none
  | some a => exact .some rfl

end Results

/-! ### Values and rests -/

section Values

variable {T : τ → τ → Prop} {R : α → α → Prop} {S : β → β → Prop} {input input' : List τ}

/-- Alike values read from the front of two inputs, with alike rests. -/
structure Read.Alike (T : τ → τ → Prop) (R : α → α → Prop) {input input' : List τ}
    (r : Read α input) (r' : Read α input') : Prop where
  value : R r.value r'.value
  rest : List.Forall₂ T r.rest r'.rest

/-- The same for steps that may take nothing. -/
structure Remnant.Alike (T : τ → τ → Prop) (R : α → α → Prop) {input input' : List τ}
    (r : Remnant α input) (r' : Remnant α input') : Prop where
  value : R r.value r'.value
  rest : List.Forall₂ T r.rest r'.rest

/-- Steps of a loop that find the same, and alike values to go on with. -/
inductive Continuation.Alike (T : τ → τ → Prop) (R : α → α → Prop) {input input' : List τ} :
    Continuation α input → Continuation α input' → Prop
  | stop : Alike T R .stop .stop
  | refuse : Alike T R .refuse .refuse
  | next {r : Read α input} {r' : Read α input'} (h : r.Alike T R r') :
    Alike T R (.next r) (.next r')

namespace Read.Alike

variable {r : Read α input} {r' : Read α input'}

theorem map {f f' : α → β} (h : r.Alike T R r') (hf : ∀ a a', R a a' → S (f a) (f' a')) :
    (r.map f).Alike T S (r'.map f') :=
  ⟨hf _ _ h.value, h.rest⟩

theorem tail (h : r.Alike T R r') (t t' : τ) : (r.tail t).Alike T R (r'.tail t') :=
  ⟨h.value, h.rest⟩

theorem followedBy (_ : r.Alike T R r') {s : Read β r.rest} {s' : Read β r'.rest}
    (hs : s.Alike T S s') : (r.followedBy s).Alike T S (r'.followedBy s') :=
  ⟨hs.value, hs.rest⟩

theorem closedBy (h : r.Alike T R r') {s : Read β r.rest} {s' : Read β r'.rest}
    (hs : s.Alike T S s') : (r.closedBy s).Alike T R (r'.closedBy s') :=
  ⟨h.value, hs.rest⟩

theorem completedBy (_ : r.Alike T R r') {s : Remnant β r.rest} {s' : Remnant β r'.rest}
    (hs : s.Alike T S s') : (r.completedBy s).Alike T S (r'.completedBy s') :=
  ⟨hs.value, hs.rest⟩

end Read.Alike

/-! ### Readers -/

/-- Two readers that read alike from inputs that are alike. -/
def Reader.Alike (T : τ → τ → Prop) (R : α → α → Prop) (p p' : Reader τ α) : Prop :=
  ∀ ⦃input input' : List τ⦄, List.Forall₂ T input input' →
    Option.Rel (Read.Alike T R) (p input) (p' input')

/-- Two steps of a loop that go on alike with values and inputs that are alike. -/
def StepAlike (T : τ → τ → Prop) (R : α → α → Prop)
    (step step' : α → (input : List τ) → Continuation α input) : Prop :=
  ∀ ⦃a a' : α⦄, R a a' → ∀ ⦃input input' : List τ⦄, List.Forall₂ T input input' →
    (step a input).Alike T R (step' a' input')

theorem symbol_alike {accept accept' : τ → Option α}
    (h : ∀ t t', T t t' → Option.Rel R (accept t) (accept' t')) :
    Reader.Alike T R (Reader.symbol accept) (Reader.symbol accept') := by
  intro input input' hinput
  cases hinput with
  | nil => exact .none
  | cons ht hrest => exact rel_map (h _ _ ht) fun _ _ hvalue => ⟨hvalue, hrest⟩

section Loops

variable {step step' : α → (input : List τ) → Continuation α input} {a a' : α}

/-- **Loops.**  Steps that go on alike come to alike ends. -/
theorem extendWithin_alike (hstep : StepAlike T R step step') (ha : R a a')
    (hinput : List.Forall₂ T input input') {whole whole' : List τ}
    (hle : input.length ≤ whole.length) (hle' : input'.length ≤ whole'.length) :
    Option.Rel (Remnant.Alike T R) (Reader.extendWithin step a input hle)
      (Reader.extendWithin step' a' input' hle') := by
  -- On the rounds of the first loop, which the other one goes through as well.
  fun_induction Reader.extendWithin step a input hle generalizing a' input' with
  | case1 a input hle hstop =>
    have hround := hstep ha hinput
    rw [hstop] at hround
    rw [Reader.extendWithin.eq_def step']
    generalize step' a' input' = c at hround
    cases hround
    exact .some ⟨ha, hinput⟩
  | case2 a input hle hrefuse =>
    have hround := hstep ha hinput
    rw [hrefuse] at hround
    rw [Reader.extendWithin.eq_def step']
    generalize step' a' input' = c at hround
    cases hround
    exact .none
  | case3 a input hle r hnext ih =>
    have hround := hstep ha hinput
    rw [hnext] at hround
    rw [Reader.extendWithin.eq_def step']
    generalize step' a' input' = c at hround
    cases hround with
    | next hr => exact ih hr.value hr.rest _

theorem extend_alike (hstep : StepAlike T R step step') (ha : R a a')
    (hinput : List.Forall₂ T input input') :
    Option.Rel (Remnant.Alike T R) (Reader.extend step a input) (Reader.extend step' a' input') :=
  extendWithin_alike hstep ha hinput _ _

end Loops

section Operators

variable {operand operand' : Reader τ α} {operator operator' : τ → Option (α → α → α)}

/-- Operators that join alike operands to alike values. -/
def OperatorAlike (T : τ → τ → Prop) (R : α → α → Prop)
    (operator operator' : τ → Option (α → α → α)) : Prop :=
  ∀ ⦃t t' : τ⦄, T t t' →
    Option.Rel (fun join join' => ∀ a a', R a a' → ∀ b b', R b b' → R (join a b) (join' a' b'))
      (operator t) (operator' t')

theorem chainStep_alike (h : Reader.Alike T R operand operand')
    (hop : OperatorAlike T R operator operator') :
    StepAlike T R (Reader.chainStep operand operator) (Reader.chainStep operand' operator') := by
  intro a a' ha input input' hinput
  cases hinput with
  | nil => exact .stop
  | cons ht hrest =>
    simp only [Reader.chainStep]
    obtain ⟨ho, ho'⟩ | ⟨join, join', ho, ho', hjoin⟩ := rel_cases (hop ht)
    · rw [ho, ho']
      exact .stop
    · rw [ho, ho']
      obtain ⟨hb, hb'⟩ | ⟨r, r', hb, hb', hr⟩ := rel_cases (h hrest)
      · simp only [hb, hb']
        exact .refuse
      · simp only [hb, hb']
        exact .next ((hr.map (hjoin _ _ ha)).tail _ _)

/-- Operands joined by operators. -/
theorem Reader.Alike.leftChain (h : Reader.Alike T R operand operand')
    (hop : OperatorAlike T R operator operator') :
    Reader.Alike T R (Reader.leftChain operand operator)
      (Reader.leftChain operand' operator') := by
  intro input input' hinput
  refine rel_bind (h hinput) fun first first' hfirst => ?_
  refine rel_bind (extend_alike (chainStep_alike h hop) hfirst.value hfirst.rest) ?_
  exact fun all all' hall => .some (hfirst.completedBy hall)

end Operators

section Separators

variable {separator separator' : Reader τ Unit} {item item' : Reader τ α}

/-- Symbols that stand between values are read, and nothing is kept of them. -/
abbrev Reader.AlikeUnit (T : τ → τ → Prop) (p p' : Reader τ Unit) : Prop :=
  Reader.Alike T (fun _ _ => True) p p'

theorem separatedStep_alike (hseparator : Reader.AlikeUnit T separator separator')
    (h : Reader.Alike T R item item') :
    StepAlike T (List.Forall₂ R) (Reader.separatedStep separator item)
      (Reader.separatedStep separator' item') := by
  intro done done' hdone input input' hinput
  simp only [Reader.separatedStep]
  obtain ⟨hs, hs'⟩ | ⟨s, s', hs, hs', hsep⟩ := rel_cases (hseparator hinput)
  · rw [hs, hs']
    exact .stop
  · rw [hs, hs']
    obtain ⟨hi, hi'⟩ | ⟨r, r', hi, hi', hr⟩ := rel_cases (h hsep.rest)
    · simp only [hi, hi']
      exact .stop
    · simp only [hi, hi']
      exact .next ((hsep.followedBy hr).map fun _ _ hvalue => .cons hvalue hdone)

/-- Values between separators. -/
theorem Reader.Alike.separated (hseparator : Reader.AlikeUnit T separator separator')
    (h : Reader.Alike T R item item') :
    Reader.Alike T (List.Forall₂ R) (Reader.separated separator item)
      (Reader.separated separator' item') := by
  intro input input' hinput
  refine rel_bind (h hinput) fun first first' hfirst => ?_
  refine rel_bind (extend_alike (separatedStep_alike hseparator h)
    (.cons hfirst.value .nil) hfirst.rest) fun all all' hall => ?_
  exact .some ((hfirst.completedBy hall).map fun _ _ hvalues => List.rel_reverse hvalues)

end Separators

end Values

end ReleaseArtifacts
