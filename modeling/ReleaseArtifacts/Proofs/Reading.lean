import ReleaseArtifacts.Reader

namespace ReleaseArtifacts

/-!
# What readers read

* `Reads r input value rest` — the reader takes `value` from the front of `input` and leaves `rest`.
* `Leaves r input value rest` — the same for a step that may take nothing.
* `Steps step` — the runs of a loop, one step after the other; `Steps.extend` shows that the loop
  takes them.
* `Chain` — values after separators; `Reads.separated` reads them.
-/

variable {τ α β : Type}

/-- The reader takes a value from the front of the input and leaves the rest. -/
def Reads (r : Reader τ α) (input : List τ) (value : α) (rest : List τ) : Prop :=
  ∃ h, r input = some ⟨value, rest, h⟩

/-- The step takes something or nothing from the front of the input and leaves the rest. -/
def Leaves (r : (input : List τ) → Option (Remnant α input)) (input : List τ) (value : α)
    (rest : List τ) : Prop :=
  ∃ h, r input = some ⟨value, rest, h⟩

theorem Reads.symbol {accept : τ → Option α} {t : τ} {value : α} (h : accept t = some value)
    (rest : List τ) : Reads (Reader.symbol accept) (t :: rest) value rest := by
  refine ⟨Nat.lt_succ_self _, ?_⟩
  rw [Reader.symbol, h]
  rfl

/-! ### Loops -/

section Loops

variable {step : α → (input : List τ) → Continuation α input} {value v : α} {input rest : List τ}

/-- The runs of a loop from a value and an input to those where it stops. -/
inductive Steps (step : α → (input : List τ) → Continuation α input) :
    α → List τ → α → List τ → Prop
  | stop {value : α} {input : List τ} (h : step value input = .stop) :
    Steps step value input value input
  | next {value v : α} {input rest : List τ} {r : Read α input} (h : step value input = .next r)
    (more : Steps step r.value r.rest v rest) : Steps step value input v rest

theorem Steps.extendWithin (h : Steps step value input v rest) {whole : List τ}
    (hle : input.length ≤ whole.length) :
    ∃ k, Reader.extendWithin step value input hle = some ⟨v, rest, k⟩ := by
  -- On the run: the loop began at `whole`, of which a rest is left in every round.
  induction h with
  | stop h =>
    refine ⟨hle, ?_⟩
    rw [Reader.extendWithin, h]
  | @next value v input rest r h more ih =>
    obtain ⟨k, hrest⟩ := ih (Nat.le_trans (Nat.le_of_lt r.shorter) hle)
    refine ⟨k, ?_⟩
    rw [Reader.extendWithin, h]
    exact hrest

/-- **Loops take their runs.** -/
theorem Steps.extend (h : Steps step value input v rest) :
    Leaves (Reader.extend step value) input v rest :=
  h.extendWithin (Nat.le_refl _)

end Loops

/-! ### Values between separators -/

section Separators

variable {separator : Reader τ Unit} {item : Reader τ α} {input mid rest : List τ} {a : α}
  {as done : List α}

/-- Values, each of them after a separator, up to where no separator stands. -/
inductive Chain (separator : Reader τ Unit) (item : Reader τ α) :
    List τ → List α → List τ → Prop
  | nil {input : List τ} (h : separator input = none) : Chain separator item input [] input
  | cons {input mid next rest : List τ} {a : α} {as : List α} (s : Reads separator input () mid)
    (first : Reads item mid a next) (more : Chain separator item next as rest) :
    Chain separator item input (a :: as) rest

theorem Chain.steps (h : Chain separator item input as rest) (done : List α) :
    Steps (Reader.separatedStep separator item) done input (as.reverse ++ done) rest := by
  induction h generalizing done with
  | nil h =>
    refine .stop ?_
    rw [Reader.separatedStep, h]
  | @cons input mid next rest a as s first more ih =>
    obtain ⟨hs, hseparator⟩ := s
    obtain ⟨hfirst, hitem⟩ := first
    have hstep : Reader.separatedStep separator item done input =
        .next ⟨a :: done, next, Nat.lt_trans hfirst hs⟩ := by
      rw [Reader.separatedStep, hseparator]
      simp only [hitem]
      rfl
    refine .next hstep ?_
    rw [List.reverse_cons, List.append_assoc]
    exact ih (a :: done)

/-- Values between separators are read in their order. -/
theorem Reads.separated (hfirst : Reads item input a mid)
    (hrest : Chain separator item mid as rest) :
    Reads (Reader.separated separator item) input (a :: as) rest := by
  obtain ⟨hlt, hitem⟩ := hfirst
  obtain ⟨hle, hall⟩ := (hrest.steps [a]).extend
  refine ⟨Nat.lt_of_le_of_lt hle hlt, ?_⟩
  rw [Reader.separated, hitem]
  simp only [Option.bind_eq_bind, Option.bind_some, hall, Option.pure_def, Read.completedBy,
    Read.map, List.reverse_append, List.reverse_reverse, List.reverse_singleton,
    List.singleton_append]

end Separators

end ReleaseArtifacts
