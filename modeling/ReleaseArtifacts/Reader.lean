namespace ReleaseArtifacts

/-!
# Readers

A reader takes a value from the front of a list of symbols.  Both text formats of this library, the
package profile and the template expressions, are read by readers.

* `Read α input` — a value together with the rest of `input`, which is strictly shorter.
* `Remnant α input` — the same for a step that may take nothing.
* `Reader.extend` — repeats a step until it stops.  It is the one loop of all readers, and it ends
  because every step that goes on leaves a shorter rest.
* `Reader.leftChain`, `Reader.separated` — operands joined by operators, values between separators.
-/

variable {τ α β : Type}

/-- A value read from the front of `input`, with the symbols after it. -/
structure Read (α : Type) (input : List τ) where
  value : α
  rest : List τ
  shorter : rest.length < input.length

/-- A value read from the front of `input` by a step that may take nothing. -/
structure Remnant (α : Type) (input : List τ) where
  value : α
  rest : List τ
  shorter : rest.length ≤ input.length

/-- Reads a value and takes at least one symbol, or refuses. -/
abbrev Reader (τ : Type) (α : Type) := (input : List τ) → Option (Read α input)

/-- What a step of a loop finds: the end of the loop, a fault, or a value to go on with. -/
inductive Continuation (α : Type) (input : List τ)
  | stop
  | refuse
  | next (r : Read α input)

namespace Read

/-- A value and the symbols after the first. -/
def first (value : α) (t : τ) (rest : List τ) : Read α (t :: rest) :=
  ⟨value, rest, Nat.lt_succ_self _⟩

/-- Changes the value that was read. -/
def map {input : List τ} (f : α → β) (r : Read α input) : Read β input :=
  ⟨f r.value, r.rest, r.shorter⟩

/-- What was read from a tail was read from the whole. -/
def tail (t : τ) {input : List τ} (r : Read α input) : Read α (t :: input) :=
  ⟨r.value, r.rest, Nat.lt_succ_of_lt r.shorter⟩

/-- Two values one after the other, of which the second counts. -/
def followedBy {input : List τ} (first : Read α input) (second : Read β first.rest) :
    Read β input :=
  ⟨second.value, second.rest, Nat.lt_trans second.shorter first.shorter⟩

/-- Two values one after the other, of which the first counts. -/
def closedBy {input : List τ} (first : Read α input) (second : Read β first.rest) : Read α input :=
  (first.followedBy second).map fun _ => first.value

/-- A value and a step after it that may take nothing. -/
def completedBy {input : List τ} (first : Read α input) (r : Remnant β first.rest) : Read β input :=
  ⟨r.value, r.rest, Nat.lt_of_le_of_lt r.shorter first.shorter⟩

/-- A value read after a step that took something or nothing. -/
def after {input : List τ} (first : Remnant α input) (r : Read β first.rest) : Read β input :=
  ⟨r.value, r.rest, Nat.lt_of_lt_of_le r.shorter first.shorter⟩

end Read

namespace Remnant

/-- Nothing taken. -/
def start (value : α) (input : List τ) : Remnant α input := ⟨value, input, Nat.le_refl _⟩

/-- A step after a reader. -/
def within {input : List τ} (first : Read α input) (r : Remnant β first.rest) : Remnant β input :=
  ⟨r.value, r.rest, Nat.le_trans r.shorter (Nat.le_of_lt first.shorter)⟩

/-- A step after another one. -/
def followedBy {input : List τ} (first : Remnant α input) (r : Remnant β first.rest) :
    Remnant β input :=
  ⟨r.value, r.rest, Nat.le_trans r.shorter first.shorter⟩

end Remnant

namespace Reader

/-- Reads one symbol that `accept` turns into a value. -/
def symbol (accept : τ → Option α) : Reader τ α
  | [] => none
  | t :: rest => (accept t).map (.first · t rest)

/-- Repeats a step on the value it found last, until it stops.  `whole` is where the loop began. -/
def extendWithin (step : α → (input : List τ) → Continuation α input) {whole : List τ} (value : α)
    (input : List τ) (h : input.length ≤ whole.length) : Option (Remnant α whole) :=
  match step value input with
  | .stop => some ⟨value, input, h⟩
  | .refuse => none
  | .next r => extendWithin step r.value r.rest (Nat.le_trans (Nat.le_of_lt r.shorter) h)
termination_by input.length
decreasing_by exact r.shorter

/-- Repeats a step on the value it found last, until it stops. -/
def extend (step : α → (input : List τ) → Continuation α input) (value : α) (input : List τ) :
    Option (Remnant α input) :=
  extendWithin step value input (Nat.le_refl _)

/-- A step for operands joined by operators: `operator` says which symbols join two operands, and
    how. -/
def chainStep (operand : Reader τ α) (operator : τ → Option (α → α → α)) (left : α) :
    (input : List τ) → Continuation α input
  | [] => .stop
  | t :: input =>
    match operator t with
    | none => .stop
    | some join =>
      match operand input with
      | none => .refuse
      | some right => .next ((right.map (join left)).tail t)

/-- Operands joined by operators that group to the left. -/
def leftChain (operand : Reader τ α) (operator : τ → Option (α → α → α)) : Reader τ α :=
  fun input => do
    let first ← operand input
    let all ← extend (chainStep operand operator) first.value first.rest
    return first.completedBy all

/-- A step for values between separators; the values are in reverse.  A separator without a value
    after it is left alone. -/
def separatedStep (separator : Reader τ Unit) (item : Reader τ α) (done : List α)
    (input : List τ) : Continuation (List α) input :=
  match separator input with
  | none => .stop
  | some s =>
    match item s.rest with
    | none => .stop
    | some next => .next ((s.followedBy next).map (· :: done))

/-- One or more values with a separator between them, in order. -/
def separated (separator : Reader τ Unit) (item : Reader τ α) : Reader τ (List α) :=
  fun input => do
    let first ← item input
    let all ← extend (separatedStep separator item) [first.value] first.rest
    return (first.completedBy all).map List.reverse

end Reader

end ReleaseArtifacts
