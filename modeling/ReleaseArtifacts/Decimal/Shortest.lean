namespace ReleaseArtifacts.Decimal

/-!
# Binary fractions and their shortest decimals

A number with a binary fraction has 53 significant bits, m · 2^q.  It is read from a decimal by
rounding to the nearest such number, and it is shown by the shortest decimal that reads back as it.

* `Binary` — the numbers, with both infinities and "not a number".
* `Binary.ofDecimal` — the nearest number to n · 10^e; a tie goes to the even mantissa.
* `shortest` — the point of the coarsest decimal grid that rounds to a number.
* `Binary.text` — a number in positional digits, always with a point.
-/

/-- A number with 53 significant bits. -/
inductive Binary
  | finite (negative : Bool) (mantissa : Nat) (exponent : Int)
  | infinite (negative : Bool)
  | notANumber
deriving DecidableEq, Repr

/-! ### Reading -/

/-- The quotient rounded to the nearest whole number, a tie to the even one. -/
def roundQuotient (num den : Nat) : Nat :=
  let quotient := num / den
  let twice := 2 * (num % den)
  if twice < den then quotient
  else if twice > den then quotient + 1
  else if quotient % 2 = 0 then quotient else quotient + 1

/-- The least exponent of a number. -/
def leastExponent : Int := -1074

/-- The greatest exponent of a number. -/
def greatestExponent : Int := 971

/-- A fraction times a power of two, as a fraction. -/
def scaled (num den : Nat) (power : Int) : Nat × Nat :=
  if 0 ≤ power then (num * Nat.pow 2 power.toNat, den) else (num, den * Nat.pow 2 (-power).toNat)

/-- The nearest number to a positive fraction. -/
def nearest (negative : Bool) (num den : Nat) : Binary :=
  let guess : Int := (num.log2 : Int) - den.log2 - 53
  let (n, d) := scaled num den (-guess)
  let exponent := max leastExponent (if n / d ≥ Nat.pow 2 53 then guess + 1 else guess)
  let (n, d) := scaled num den (-exponent)
  let mantissa := roundQuotient n d
  let (mantissa, exponent) :=
    if mantissa = Nat.pow 2 53 then (Nat.pow 2 52, exponent + 1) else (mantissa, exponent)
  if exponent > greatestExponent then .infinite negative else .finite negative mantissa exponent

/-- Decimals with more digits before the point than this are too large for any number. -/
def decimalBound : Int := 400

/-- The nearest number to n · 10^e. -/
def Binary.ofDecimal (negative : Bool) (n : Nat) (e : Int) : Binary :=
  let size : Int := e + (Nat.toDigits 10 n).length
  if n = 0 ∨ size < -decimalBound then .finite negative 0 0
  else if size > decimalBound then .infinite negative
  else if 0 ≤ e then nearest negative (n * Nat.pow 10 e.toNat) 1
  else nearest negative n (Nat.pow 10 (-e).toNat)

/-! ### Showing -/

/-- The numbers that round to m · 2^q lie between `low` and `high` quarters of 2^q. -/
structure Interval where
  low : Nat
  high : Nat
  middle : Nat
  closed : Bool

/-- The interval of a mantissa.  Below a power of two the numbers are twice as dense. -/
def intervalOf (mantissa : Nat) (exponent : Int) : Interval :=
  let low := if mantissa = Nat.pow 2 52 ∧ exponent > leastExponent then 4 * mantissa - 1
    else 4 * mantissa - 2
  ⟨low, 4 * mantissa + 2, 4 * mantissa, mantissa % 2 = 0⟩

/-- Whether a fraction of quarters lies in an interval. -/
def Interval.holds (i : Interval) (num den : Nat) : Bool :=
  if i.closed then i.low * den ≤ num && num ≤ i.high * den
  else i.low * den < num && num < i.high * den

/-- The point d · 10^p next to the middle of an interval of quarters of 2^q, if one is inside. -/
def gridPoint? (i : Interval) (q p : Int) : Option Nat :=
  let (num, den) := scaled i.middle 1 (q - 2)
  let (num, den) :=
    if 0 ≤ p then (num, den * Nat.pow 10 p.toNat) else (num * Nat.pow 10 (-p).toNat, den)
  let below := num / den
  let inside (d : Nat) : Bool :=
    let (a, b) := if 0 ≤ p then (d * Nat.pow 10 p.toNat, 1) else (d, Nat.pow 10 (-p).toNat)
    let (a, b) := scaled a b (2 - q)
    i.holds a b
  match inside below, inside (below + 1) with
  | true, true => some (if 2 * (num % den) ≤ den then below else below + 1)
  | true, false => some below
  | false, true => some (below + 1)
  | false, false => none

/-- The digits and the exponent of the shortest decimal that rounds to m · 2^q. -/
def shortest (mantissa : Nat) (exponent : Int) : Nat × Int :=
  let grids : List Int := (List.range 660).map fun (k : Nat) => (310 : Int) - k
  (grids.findSome? fun p =>
    (gridPoint? (intervalOf mantissa exponent) exponent p).map (·, p)).getD (mantissa, 0)

/-- Digits with a point `p` places from their end. -/
def positional (digits : List Char) (p : Int) : List Char :=
  if 0 ≤ p then digits ++ List.replicate p.toNat '0' ++ ['.', '0']
  else
    let places := (-p).toNat
    if places < digits.length then
      digits.take (digits.length - places) ++ ['.'] ++ digits.drop (digits.length - places)
    else ['0', '.'] ++ List.replicate (places - digits.length) '0' ++ digits

/-- The text of a number. -/
def Binary.text : Binary → String
  | finite negative mantissa exponent =>
    let sign := if negative then "-" else ""
    if mantissa = 0 then sign ++ "0.0"
    else
      let (d, p) := shortest mantissa exponent
      sign ++ String.ofList (positional (Nat.toDigits 10 d) p)
  | infinite negative => if negative then "-inf" else "inf"
  | notANumber => "NaN"

end ReleaseArtifacts.Decimal
