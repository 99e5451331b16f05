namespace ReleaseArtifacts.Template

/-!
# Failures of a template

* `Failure` — why an operation in a tag cannot be done, with `Failure.message` as its text.
* `Stop` — a failure and the line of the template it is reported on.
-/

/-- Why an operation in a template cannot be done. -/
inductive Failure
  /-- an undefined value is printed, tested, joined or looked into -/
  | undefinedValue
  /-- a call has fewer arguments than the function takes -/
  | missingArgument
  /-- a call has more arguments than the function takes -/
  | tooManyArguments
  /-- no function of this name -/
  | unknownFunction (name : String)
  /-- no filter of this name -/
  | unknownFilter (name : String)
  /-- an argument has to be a text -/
  | notText
  /-- an argument has to be a list -/
  | notSequence
  /-- a loop over a value of this kind -/
  | notIterable (kind : String)
  /-- a value of this kind where a width is needed -/
  | notWidth (kind : String)
  /-- an operator on values of kinds it does not take -/
  | unsupported (operator leftKind rightKind : String)
  /-- a text can be repeated by a whole number only -/
  | notRepeatable
  /-- a result beyond the range of numbers -/
  | outOfRange (operator left right : String)
  /-- a sign before a value that is no number -/
  | notNegatable
  /-- a containment question to a value that holds nothing -/
  | notContainer
  /-- a call of a value of this kind -/
  | notCallable (kind : String)
  /-- a text is to be padded to more columns than a line may have -/
  | paddingTooWide (width : Nat)
deriving DecidableEq, Repr

/-- How a value that cannot be called is spoken of: those with parts are all objects. -/
def callee (kind : String) : String :=
  if kind = "sequence" ∨ kind = "map" then "object" else "value of type " ++ kind

/-- The text of a failure. -/
def Failure.message : Failure → String
  | undefinedValue => "undefined value"
  | missingArgument => "missing argument"
  | tooManyArguments => "too many arguments"
  | unknownFunction name => "unknown function: " ++ name ++ " is unknown"
  | unknownFilter name => "unknown filter: filter " ++ name ++ " is unknown"
  | notText => "invalid operation: value is not a string"
  | notSequence => "invalid operation: not iterable"
  | notIterable kind => "invalid operation: " ++ kind ++ " is not iterable"
  | notWidth kind => "invalid operation: cannot convert " ++ kind ++ " to usize"
  | unsupported operator leftKind rightKind =>
    "invalid operation: tried to use " ++ operator ++ " operator on unsupported types " ++
      leftKind ++ " and " ++ rightKind
  | notRepeatable => "invalid operation: strings can only be multiplied with integers"
  | outOfRange operator left right =>
    "invalid operation: unable to calculate " ++ left ++ " " ++ operator ++ " " ++ right
  | notNegatable => "invalid operation"
  | notContainer => "invalid operation: cannot perform a containment check on this value"
  | notCallable kind => "invalid operation: " ++ callee kind ++ " is not callable"
  | paddingTooWide width => "padding of " ++ toString width ++ " columns"

/-- Where and why rendering stopped. -/
structure Stop where
  line : Nat
  reason : Failure
deriving DecidableEq, Repr

end ReleaseArtifacts.Template
