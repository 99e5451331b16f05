import ReleaseArtifacts.Text.Quoted

namespace ReleaseArtifacts.Template

/-!
# Template values

What a name in a template can stand for.

* `Value` — undefined, none, booleans, whole numbers, texts, lists and objects.
* `Value.shown` — the text that a value prints as; `Value.nested` — the same inside a list.
* `Value.same`, `Value.order` — equality and order, across kinds where they are comparable.
* `Value.field`, `Value.item` — lookups, which give `undefined` where nothing is found.
-/

/-- A value of the template language.  An object keeps its fields in the order they print in. -/
inductive Value
  | undefined
  | none
  | boolean (b : Bool)
  | number (n : Int)
  | text (s : String)
  | list (items : List Value)
  | object (fields : List (String × Value))
deriving Inhabited

namespace Value

/-- The name of a value's kind in messages. -/
def kind : Value → String
  | undefined => "undefined"
  | none => "none"
  | boolean _ => "bool"
  | number _ => "number"
  | text _ => "string"
  | list _ => "sequence"
  | object _ => "map"

/-- Kinds are ordered before their values are. -/
def rank : Value → Nat
  | undefined => 0
  | none => 1
  | boolean _ => 2
  | number _ => 3
  | text _ => 4
  | list _ => 5
  | object _ => 6

/-! ### Text -/

mutual

/-- The text of a value inside a list or an object: texts are quoted there. -/
def nested : Value → String
  | undefined => "undefined"
  | none => "None"
  | boolean b => if b then "True" else "False"
  | number n => toString n
  | text s => Text.quoted s
  | list items => "[" ++ nestedItems items ++ "]"
  | object fields => "\x7b" ++ nestedFields fields ++ "\x7d"

/-- The items of a list, with commas between them. -/
def nestedItems : List Value → String
  | [] => ""
  | [v] => nested v
  | v :: rest => nested v ++ ", " ++ nestedItems rest

/-- The fields of an object, with commas between them. -/
def nestedFields : List (String × Value) → String
  | [] => ""
  | [(name, v)] => Text.quoted name ++ ": " ++ nested v
  | (name, v) :: rest => Text.quoted name ++ ": " ++ nested v ++ ", " ++ nestedFields rest

end

/-- The text that a value prints as. -/
def shown : Value → String
  | text s => s
  | undefined => ""
  | v => v.nested

/-! ### Truth, equality and order -/

/-- Whether a value counts as true.  Asking it of `undefined` is a failure, decided elsewhere. -/
def isTrue : Value → Bool
  | undefined => false
  | none => false
  | boolean b => b
  | number n => n ≠ 0
  | text s => s ≠ ""
  | list items => !items.isEmpty
  | object fields => !fields.isEmpty

/-- A value as a whole number: numbers, and booleans as 0 and 1. -/
def integer? : Value → Option Int
  | boolean b => some (if b then 1 else 0)
  | number n => some n
  | _ => Option.none

mutual

/-- Equality.  Booleans equal the numbers 0 and 1; two objects are equal if they have the same
    fields, in any order. -/
def same : Value → Value → Bool
  | undefined, undefined => true
  | none, none => true
  | text a, text b => a = b
  | list a, list b => sameItems a b
  | object a, object b => a.length = b.length && sameFields a b
  | boolean a, b => b.integer? = some (if a then 1 else 0)
  | number a, b => b.integer? = some a
  | _, _ => false

/-- Equality of lists, item by item. -/
def sameItems : List Value → List Value → Bool
  | [], [] => true
  | a :: as, b :: bs => same a b && sameItems as bs
  | _, _ => false

/-- Every field of the first object is a field of the second, with an equal value. -/
def sameFields : List (String × Value) → List (String × Value) → Bool
  | [], _ => true
  | (name, v) :: rest, fields =>
    (match fields.lookup name with
      | some w => same v w
      | Option.none => false) && sameFields rest fields

end

mutual

/-- Order: by kind first, then by value; texts by code points, lists and objects item by item. -/
def order : Value → Value → Ordering
  | boolean a, boolean b => compare a.toNat b.toNat
  | number a, number b => compare a b
  | text a, text b => compare a b
  | list a, list b => orderItems a b
  | object a, object b => orderFields a b
  | a, b => compare a.rank b.rank

/-- Order of lists: the first difference decides, a shorter list comes first. -/
def orderItems : List Value → List Value → Ordering
  | [], [] => .eq
  | [], _ => .lt
  | _, [] => .gt
  | a :: as, b :: bs => (order a b).then (orderItems as bs)

/-- Order of objects by their fields as they stand. -/
def orderFields : List (String × Value) → List (String × Value) → Ordering
  | [], [] => .eq
  | [], _ => .lt
  | _, [] => .gt
  | (m, a) :: as, (n, b) :: bs => ((compare m n).then (order a b)).then (orderFields as bs)

end

/-! ### Lookups -/

/-- The field of an object, or `undefined`. -/
def field (v : Value) (name : String) : Value :=
  match v with
  | object fields => (fields.lookup name).getD undefined
  | _ => undefined

/-- The place that an index names in a sequence: a negative index counts from the end. -/
def place (index : Int) (size : Nat) : Option Nat :=
  if index < 0 then
    if index.natAbs ≤ size then some (size - index.natAbs) else Option.none
  else some index.toNat

/-- The item of a list, a text or an object under a key, or `undefined`. -/
def item (v key : Value) : Value :=
  match v, key with
  | object fields, text name => (fields.lookup name).getD undefined
  | list items, key =>
    match key.integer?.bind (place · items.length) with
    | some i => (items[i]?).getD undefined
    | Option.none => undefined
  | text s, key =>
    match key.integer?.bind (place · s.length) with
    | some i => ((s.toList[i]?).map fun c => text c.toString).getD undefined
    | Option.none => undefined
  | _, _ => undefined

end Value

end ReleaseArtifacts.Template
