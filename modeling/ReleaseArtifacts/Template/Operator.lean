import ReleaseArtifacts.Template.Value
import ReleaseArtifacts.Template.Failure

namespace ReleaseArtifacts.Template

/-!
# Operators

* `BinaryOp.apply` — the operators that take both operands' values.
* `truth`, `negated` — conditions and the sign; `elements` — what a loop runs over.
-/

/-- The operators between two values. -/
inductive BinaryOp
  | add | times | join | equal | unequal | less | greater | within
deriving DecidableEq, Repr

/-- Whether one text occurs in another. -/
def occursIn (part : List Char) : List Char → Bool
  | [] => part.isEmpty
  | c :: rest => part.isPrefixOf (c :: rest) || occursIn part rest

/-- Numbers are whole and have 128 bits with a sign. -/
def inNumberRange (n : Int) : Bool := -Int.pow 2 127 ≤ n && n < Int.pow 2 127

/-- An arithmetic result, or a failure where it leaves the range of numbers. -/
def arithmetic (operator : String) (f : Int → Int → Int) (a b : Value) : Except Failure Value :=
  match a.integer?, b.integer? with
  | some m, some n =>
    if inNumberRange m && inNumberRange n then
      if inNumberRange (f m n) then .ok (.number (f m n))
      else .error (.outOfRange operator a.shown b.shown)
    else .error (.unsupported operator a.kind b.kind)
  | _, _ => .error (.unsupported operator a.kind b.kind)

/-- A sum: of numbers, or two texts or lists one after the other. -/
def sum (a b : Value) : Except Failure Value :=
  match a, b with
  | .list xs, .list ys => .ok (.list (xs ++ ys))
  | .text s, .text t => .ok (.text (s ++ t))
  | a, b => arithmetic "+" (· + ·) a b

/-- How often a text or a list is repeated. -/
def repetitions (v : Value) : Except Failure Nat :=
  match v.integer? with
  | some n => if 0 ≤ n then .ok n.toNat else .error .notRepeatable
  | none => .error .notRepeatable

/-- A product: of numbers, or a text or a list repeated. -/
def product (a b : Value) : Except Failure Value :=
  match a, b with
  | .text s, n => return .text (String.join (List.replicate (← repetitions n) s))
  | n, .text s => return .text (String.join (List.replicate (← repetitions n) s))
  | .list xs, n => return .list (List.replicate (← repetitions n) xs).flatten
  | n, .list xs => return .list (List.replicate (← repetitions n) xs).flatten
  | a, b => arithmetic "*" (· * ·) a b

/-- Two values printed one after the other. -/
def joined (a b : Value) : Except Failure Value :=
  match a, b with
  | .undefined, _ => .error .undefinedValue
  | _, .undefined => .error .undefinedValue
  | a, b => .ok (.text (a.shown ++ b.shown))

/-- Whether `a` is in `b`: a part of a text, an item of a list, a field of an object. -/
def within (a b : Value) : Except Failure Value :=
  match b with
  | .undefined => .error .undefinedValue
  | .text s => .ok (.boolean (occursIn a.shown.toList s.toList))
  | .list items => .ok (.boolean (items.any fun v => v.same a))
  | .object fields =>
    match a with
    | .text name => .ok (.boolean (fields.lookup name).isSome)
    | _ => .ok (.boolean false)
  | _ => .error .notContainer

/-- The value of an operator on two values. -/
def BinaryOp.apply : BinaryOp → Value → Value → Except Failure Value
  | add, a, b => sum a b
  | times, a, b => product a b
  | join, a, b => joined a b
  | equal, a, b => .ok (.boolean (a.same b))
  | unequal, a, b => .ok (.boolean (!a.same b))
  | less, a, b => .ok (.boolean (a.order b == .lt))
  | greater, a, b => .ok (.boolean (a.order b == .gt))
  | within, a, b => Template.within a b

/-- The truth of a condition; an undefined one is a failure. -/
def truth : Value → Except Failure Bool
  | .undefined => .error .undefinedValue
  | v => .ok v.isTrue

/-- A number with the other sign. -/
def negated : Value → Except Failure Value
  | .number n => .ok (.number (-n))
  | _ => .error .notNegatable

/-- What a loop runs over: items of a list, characters of a text, field names of an object, nothing
    for none. -/
def elements : Value → Except Failure (List Value)
  | .undefined => .error .undefinedValue
  | .none => .ok []
  | .text s => .ok (s.toList.map fun c => .text c.toString)
  | .list items => .ok items
  | .object fields => .ok (fields.map fun f => .text f.1)
  | v => .error (.notIterable v.kind)

end ReleaseArtifacts.Template
