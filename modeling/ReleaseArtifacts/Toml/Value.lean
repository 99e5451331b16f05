import ReleaseArtifacts.Decimal.Shortest

namespace ReleaseArtifacts.Toml

/-!
# Document values

* `Value` — what a key of a document stands for.  A table keeps its keys in the order of their first
  appearance, except that a table which is implied by the header of one inside it, and gets a header
  of its own later, counts from its own header on.
* `Table` — the keys of a table with their values.
-/

/-- A value of a document. -/
inductive Value
  | string (s : String)
  | integer (n : Int)
  | float (x : Decimal.Binary)
  | boolean (b : Bool)
  /-- a date, a time of day, or both, as it is written -/
  | moment (text : String)
  | array (items : List Value)
  | table (entries : List (String × Value))
deriving Inhabited

/-- The keys of a table with their values, in order. -/
abbrev Table := List (String × Value)

end ReleaseArtifacts.Toml
