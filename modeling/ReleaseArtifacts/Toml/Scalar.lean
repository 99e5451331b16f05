import ReleaseArtifacts.Toml.Value

namespace ReleaseArtifacts.Toml

/-!
# Bare scalars

Values without quotes: booleans, numbers, dates and times.  Each function here takes the whole text
of a value.

* `integer?`, `float?`, `isMoment` — the forms of numbers, and of dates and times of day.
* `scalar?` — any bare scalar.
-/

/-! ### Digits -/

/-- Digits with single underscores between them, without the underscores. -/
def groupedDigits? (isDigit : Char → Bool) : List Char → Option (List Char)
  | [] => none
  | [c] => if isDigit c then some [c] else none
  | c :: '_' :: rest =>
    if isDigit c then (groupedDigits? isDigit rest).map (c :: ·) else none
  | c :: rest => if isDigit c then (groupedDigits? isDigit rest).map (c :: ·) else none

/-- The value of a digit of any base up to 16. -/
def digitValue (c : Char) : Nat :=
  if c.isDigit then c.toNat - 48
  else if 'a' ≤ c ∧ c ≤ 'f' then c.toNat - 87
  else c.toNat - 55

/-- The number that digits write. -/
def digitsValue (base : Nat) (digits : List Char) : Nat :=
  digits.foldl (fun n c => base * n + digitValue c) 0

/-- Hexadecimal digits. -/
def isHexDigit (c : Char) : Bool :=
  c.isDigit || ('a' ≤ c && c ≤ 'f') || ('A' ≤ c && c ≤ 'F')

/-- Octal digits. -/
def isOctalDigit (c : Char) : Bool := '0' ≤ c && c ≤ '7'

/-- Binary digits. -/
def isBinaryDigit (c : Char) : Bool := c = '0' || c = '1'

/-- Takes a sign off the front of a number; true if it is negative. -/
def takeSign : List Char → Bool × List Char
  | '-' :: rest => (true, rest)
  | '+' :: rest => (false, rest)
  | s => (false, s)

/-- Decimal digits of a whole number: no zero stands before other digits. -/
def wholeDigits? (s : List Char) : Option (List Char) :=
  match s with
  | ['0'] => some ['0']
  | '0' :: _ => none
  | s => groupedDigits? Char.isDigit s

/-! ### Numbers -/

/-- Integers have 64 bits with a sign. -/
def checkedInteger? (n : Int) : Option Int :=
  if -Int.pow 2 63 ≤ n ∧ n < Int.pow 2 63 then some n else none

/-- An integer: decimal with a sign, or in another base without one. -/
def integer? (s : List Char) : Option Int :=
  match s with
  | '0' :: 'x' :: rest =>
    (groupedDigits? isHexDigit rest).bind fun d => checkedInteger? (digitsValue 16 d)
  | '0' :: 'o' :: rest =>
    (groupedDigits? isOctalDigit rest).bind fun d => checkedInteger? (digitsValue 8 d)
  | '0' :: 'b' :: rest =>
    (groupedDigits? isBinaryDigit rest).bind fun d => checkedInteger? (digitsValue 2 d)
  | s =>
    let (negative, digits) := takeSign s
    (wholeDigits? digits).bind fun d =>
      checkedInteger? (if negative then -(digitsValue 10 d : Int) else digitsValue 10 d)

/-- The marks of an exponent. -/
def isExponentMark (c : Char) : Bool := c = 'e' || c = 'E'

/-- An exponent after its mark. -/
def exponent? (s : List Char) : Option Int :=
  let (negative, digits) := takeSign s
  (groupedDigits? Char.isDigit digits).map fun d =>
    if negative then -(digitsValue 10 d : Int) else digitsValue 10 d

/-- A decimal without its sign: digits, places after the point, and the exponent.  It needs a point
    or an exponent. -/
def decimal? (s : List Char) : Option (Nat × Int) := do
  let (significand, tail) := s.span fun c => !isExponentMark c
  let (whole, fraction) := significand.span fun c => c != '.'
  let e ← match tail with
    | [] => some 0
    | _ :: e => exponent? e
  let whole ← wholeDigits? whole
  match fraction with
  | [] => if tail.isEmpty then none else some (digitsValue 10 whole, e)
  | _ :: places => do
    let places ← groupedDigits? Char.isDigit places
    return (digitsValue 10 (whole ++ places), e - places.length)

/-- A floating-point number.  One beyond the greatest is refused, unless it is negative. -/
def float? (s : List Char) : Option Decimal.Binary :=
  let (negative, rest) := takeSign s
  match rest with
  | ['i', 'n', 'f'] => some (.infinite negative)
  | ['n', 'a', 'n'] => some .notANumber
  | rest => do
    let (n, e) ← decimal? rest
    match Decimal.Binary.ofDecimal negative n e with
    | .infinite false => none
    | x => some x

/-! ### Dates and times -/

/-- A number of two digits within bounds. -/
def twoDigits (low high : Nat) (a b : Char) : Bool :=
  a.isDigit && b.isDigit && low ≤ digitsValue 10 [a, b] && digitsValue 10 [a, b] ≤ high

/-- The days of a month. -/
def daysOfMonth (year month : Nat) : Nat :=
  if month = 2 then
    if year % 4 = 0 ∧ (year % 100 ≠ 0 ∨ year % 400 = 0) then 29 else 28
  else if month = 4 ∨ month = 6 ∨ month = 9 ∨ month = 11 then 30
  else 31

/-- Takes a date off the front. -/
def takeDate? : List Char → Option (List Char)
  | a :: b :: c :: d :: '-' :: e :: f :: '-' :: g :: h :: rest =>
    let year := [a, b, c, d]
    if year.all Char.isDigit && twoDigits 1 12 e f &&
        twoDigits 1 (daysOfMonth (digitsValue 10 year) (digitsValue 10 [e, f])) g h
    then some rest else none
  | _ => none

/-- Takes a time of day off the front, with its fraction of a second. -/
def takeTime? : List Char → Option (List Char)
  | a :: b :: ':' :: c :: d :: ':' :: e :: f :: rest =>
    if twoDigits 0 23 a b && twoDigits 0 59 c d && twoDigits 0 60 e f then
      match rest with
      | '.' :: g :: more => if g.isDigit then some (more.dropWhile Char.isDigit) else none
      | '.' :: [] => none
      | rest => some rest
    else none
  | _ => none

/-- Whether a text is an offset from universal time, or nothing. -/
def isOffset : List Char → Bool
  | [] => true
  | ['Z'] => true
  | ['z'] => true
  | [s, a, b, ':', c, d] => (s = '+' || s = '-') && twoDigits 0 23 a b && twoDigits 0 59 c d
  | _ => false

/-- Whether a text is a time of day with or without an offset. -/
def isOffsetTime (s : List Char) : Bool :=
  match takeTime? s with
  | some rest => isOffset rest
  | none => false

/-- Whether a text is a date, a time of day, or a date with a time. -/
def isMoment (s : List Char) : Bool :=
  match takeDate? s with
  | some [] => true
  | some ('T' :: time) => isOffsetTime time
  | some ('t' :: time) => isOffsetTime time
  | some (' ' :: time) => isOffsetTime time
  | some _ => false
  | none => takeTime? s = some []

/-! ### Scalars -/

/-- A bare scalar. -/
def scalar? (s : List Char) : Option Value :=
  match s with
  | ['t', 'r', 'u', 'e'] => some (.boolean true)
  | ['f', 'a', 'l', 's', 'e'] => some (.boolean false)
  | s =>
    if isMoment s then some (.moment (String.ofList s))
    else match float? s with
      | some x => some (.float x)
      | none => (integer? s).map .integer

end ReleaseArtifacts.Toml
