import ReleaseArtifacts.Toml.Value

namespace ReleaseArtifacts.Toml

/-!
# Assembling tables

A document names the place of every value by a path of keys.  This module puts values in their
places and refuses what would define a key twice.

* `Node` — a value or a table that is not complete yet; a table remembers how it came to be.
* `assign` — puts a value at a dotted key.
* `openTable`, `openElement` — give a section of a document its place.
* `complete` — the table that is built.
-/

/-- How a table came to be: by a header of its own, by a header of a table inside it, or by a dotted
    key. -/
inductive Origin
  | header | implied | dotted
deriving DecidableEq, Repr

/-- A value, a table, or a list of tables that sections go on adding to. -/
inductive Node
  | value (v : Value)
  | table (origin : Origin) (entries : List (String × Node))
  | tables (elements : List (List (String × Node)))
deriving Inhabited

/-- The keys of a table with what they name so far. -/
abbrev Entries := List (String × Node)

/-- Puts a node at a key: in place of the one there, or at the end. -/
def put (key : String) (n : Node) : Entries → Entries
  | [] => [(key, n)]
  | (k, old) :: rest => if k = key then (key, n) :: rest else (k, old) :: put key n rest

/-- Puts a value at a dotted key of a table.  A table may be entered by a dotted key if it has no
    header of its own, and a value may be put into it if dotted keys made it. -/
def assign (key : String) (v : Value) : List String → Entries → Option Entries
  | [], entries =>
    match entries.lookup key with
    | some _ => none
    | none => some (put key (.value v) entries)
  | step :: path, entries =>
    match entries.lookup step with
    | none => (assign key v path []).map fun sub => put step (.table .dotted sub) entries
    | some (.table origin sub) =>
      if origin = .dotted ∨ (origin = .implied ∧ path ≠ []) then
        (assign key v path sub).map fun sub => put step (.table origin sub) entries
      else none
    | some _ => none

/-- Changes the table at a path of keys.  A missing table is made; of a list of tables the last one
    is meant. -/
def atPath (change : Entries → Option Entries) : List String → Entries → Option Entries
  | [], entries => change entries
  | step :: path, entries =>
    match entries.lookup step with
    | none => (atPath change path []).map fun sub => put step (.table .implied sub) entries
    | some (.table origin sub) =>
      (atPath change path sub).map fun sub => put step (.table origin sub) entries
    | some (.tables elements) =>
      match elements.getLast? with
      | none => none
      | some last =>
        (atPath change path last).map fun sub =>
          put step (.tables (elements.dropLast ++ [sub])) entries
    | some (.value _) => none

/-- A value and the dotted key it is assigned to. -/
structure Assignment where
  path : List String
  key : String
  value : Value

/-- Puts values at their keys, one after the other. -/
def assignAll (entries : Entries) (assignments : List Assignment) : Option Entries :=
  assignments.foldlM (fun entries a => assign a.key a.value a.path entries) entries

/-- Puts a node at a key as the last entry, wherever the key has been before. -/
def putLast (key : String) (n : Node) (entries : Entries) : Entries :=
  entries.filter (·.1 ≠ key) ++ [(key, n)]

/-- A table with a header.  If it was implied before, it keeps what is in it, but it counts from its
    own header on: it comes after all entries that were made in between. -/
def openTable (key : String) (assignments : List Assignment) (entries : Entries) :
    Option Entries :=
  match entries.lookup key with
  | none => (assignAll [] assignments).map fun sub => put key (.table .header sub) entries
  | some (.table .implied sub) =>
    (assignAll sub assignments).map fun sub => putLast key (.table .header sub) entries
  | some _ => none

/-- A further element of a list of tables. -/
def openElement (key : String) (assignments : List Assignment) (entries : Entries) :
    Option Entries :=
  match entries.lookup key with
  | none => (assignAll [] assignments).map fun sub => put key (.tables [sub]) entries
  | some (.tables elements) =>
    (assignAll [] assignments).map fun sub => put key (.tables (elements ++ [sub])) entries
  | some _ => none

mutual

/-- The value that a node has become. -/
def Node.toValue : Node → Value
  | .value v => v
  | .table _ entries => .table (complete entries)
  | .tables elements => .array (completeAll elements)

/-- The table that some entries have become. -/
def complete : Entries → Table
  | [] => []
  | (key, n) :: rest => (key, n.toValue) :: complete rest

/-- The tables that some lists of entries have become. -/
def completeAll : List Entries → List Value
  | [] => []
  | entries :: rest => .table (complete entries) :: completeAll rest

end

end ReleaseArtifacts.Toml
