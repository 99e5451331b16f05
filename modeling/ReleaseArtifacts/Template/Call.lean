import ReleaseArtifacts.Formula.Arguments
import ReleaseArtifacts.Formula.Expansion
import ReleaseArtifacts.Template.Operator
import ReleaseArtifacts.Text.Padding

namespace ReleaseArtifacts.Template

/-!
# Functions and filters

The vocabulary of formula templates.

* `callFunction` — `sh_var(name)` and `sh_default(name, fallback)`, shell expansions.
* `applyFilter` — `ruby_args`, the arguments of a call, and `ljust(width)`, padding on the right.

Arguments are taken one after the other: the first that does not fit is reported, then a missing
one, and superfluous ones last.  All other names are unknown, those that the template language comes
with among them.
-/

/-- Takes a text from the front of the arguments. -/
def takeText : List Value → Except Failure (String × List Value)
  | [] => .error .missingArgument
  | .text s :: rest => .ok (s, rest)
  | _ :: _ => .error .notText

/-- Takes a width from the front of the arguments. -/
def takeWidth : List Value → Except Failure (Nat × List Value)
  | [] => .error .missingArgument
  | v :: rest =>
    match v.integer? with
    | some n => if 0 ≤ n ∧ n < Int.pow 2 64 then .ok (n.toNat, rest) else .error (.notWidth v.kind)
    | none => .error (.notWidth v.kind)

/-- Takes the printed items of a list from the front of the arguments; an object gives its field
    names. -/
def takeTexts : List Value → Except Failure (List String × List Value)
  | [] => .ok ([], [])
  | .list items :: rest => .ok (items.map Value.shown, rest)
  | .object fields :: rest => .ok (fields.map (·.1), rest)
  | _ :: _ => .error .notSequence

/-- Refuses arguments that nothing takes. -/
def takeNone : List Value → Except Failure Unit
  | [] => .ok ()
  | _ :: _ => .error .tooManyArguments

/-- The names of the functions. -/
def functionNames : List String := ["sh_var", "sh_default"]

/-- The value of a function call. -/
def callFunction (name : String) (arguments : List Value) : Except Failure Value :=
  match name with
  | "sh_var" => do
    let (name, rest) ← takeText arguments
    takeNone rest
    return .text (Formula.expansion name)
  | "sh_default" => do
    let (name, rest) ← takeText arguments
    let (fallback, rest) ← takeText rest
    takeNone rest
    return .text (Formula.expansionOr name fallback)
  | name => .error (.unknownFunction name)

/-- The most columns a text can be padded to. -/
def widestPadding : Nat := 65535

/-- A text padded on the right, where the width is allowed. -/
def padded (s : String) (width : Nat) : Except Failure Value :=
  if width ≤ widestPadding then .ok (.text (Text.padRight s width))
  else .error (.paddingTooWide width)

/-- The value of a filter; the filtered value is its first argument. -/
def applyFilter (name : String) (arguments : List Value) : Except Failure Value :=
  match name with
  | "ruby_args" => do
    let (items, rest) ← takeTexts arguments
    takeNone rest
    return .text (Formula.argumentList items)
  | "ljust" => do
    let (s, rest) ← takeText arguments
    let (width, rest) ← takeWidth rest
    takeNone rest
    padded s width
  | name => .error (.unknownFilter name)

end ReleaseArtifacts.Template
