import ReleaseArtifacts.Text.Quoted
import ReleaseArtifacts.Toml.Value

namespace ReleaseArtifacts.Profile

/-!
# Decoding document values

* `Decoder α` — reads a value of type `α` out of a document value, or says why it does not fit.
* `FieldFault` — why a value does not fit, with `FieldFault.message` as its text.
* `record` — decodes a record.  It is written as a table, whose keys are visited in the order of the
  document, or as an array of its fields in their own order; `visit` reports the first entry that
  does not fit, and only then is a missing field reported.
-/

open Toml (Value Table)

/-- What a value should have been. -/
inductive Expected
  | text
  | flag
  | sequence
  | record (name : String)
deriving DecidableEq, Repr

/-- The name of what a value should have been. -/
def Expected.name : Expected → String
  | text => "a string"
  | flag => "a boolean"
  | sequence => "a sequence"
  | record name => "struct " ++ name

/-- What a value is, in messages. -/
def found : Value → String
  | .string s => "string " ++ Text.quoted s
  | .integer n => "integer `" ++ toString n ++ "`"
  | .float x => "floating point `" ++ x.text ++ "`"
  | .boolean b => "boolean `" ++ toString b ++ "`"
  | .moment _ => "map"
  | .array _ => "sequence"
  | .table _ => "map"

/-- Why a value does not fit. -/
inductive FieldFault
  | wrongKind (value : Value) (expected : Expected)
  | unknownKey (key : String) (fields : List String)
  | missing (field : String)
  | tooShort (length : Nat) (record : String) (size : Nat)

/-- A list of field names in a message. -/
def oneOf (fields : List String) : String :=
  match fields.map fun f => "`" ++ f ++ "`" with
  | [] => "there are no fields"
  | [a] => "expected " ++ a
  | [a, b] => "expected " ++ a ++ " or " ++ b
  | names => "expected one of " ++ ", ".intercalate names

/-- The text of a fault. -/
def FieldFault.message : FieldFault → String
  | wrongKind v expected => "invalid type: " ++ found v ++ ", expected " ++ expected.name
  | unknownKey key fields => "unknown field `" ++ key ++ "`, " ++ oneOf fields
  | missing field => "missing field `" ++ field ++ "`"
  | tooShort length record size =>
    "invalid length " ++ toString length ++ ", expected struct " ++ record ++ " with " ++
      toString size ++ " elements"

/-- Reads a value of a type out of a document value. -/
abbrev Decoder (α : Type) := Value → Except FieldFault α

/-- A string. -/
def text : Decoder String
  | .string s => .ok s
  | v => .error (.wrongKind v .text)

/-- A truth value. -/
def flag : Decoder Bool
  | .boolean b => .ok b
  | v => .error (.wrongKind v .flag)

/-- An array, all of whose items can be decoded. -/
def list {α : Type} (item : Decoder α) : Decoder (List α)
  | .array items => items.mapM item
  | v => .error (.wrongKind v .sequence)

/-! ### Records -/

/-- Whether a value fits; its content is not needed. -/
abbrev Check := Value → Except FieldFault Unit

/-- The check of a decoder. -/
def checking {α : Type} (d : Decoder α) : Check := fun v => (d v).map fun _ => ()

/-- The fields of a record in their own order, each with its check. -/
abbrev Form := List (String × Check)

/-- The names of the fields. -/
def Form.names (form : Form) : List String := form.map (·.1)

/-- Checks the entries of a record in the order in which they stand. -/
def visit (form : Form) : Table → Except FieldFault Unit
  | [] => .ok ()
  | (key, v) :: rest =>
    match form.lookup key with
    | none => .error (.unknownKey key form.names)
    | some check => do
      check v
      visit form rest

/-- Entries that have been checked, and how to report one that is not there. -/
structure Fields where
  entries : Table
  absent : String → FieldFault

/-- A field that has to be there. -/
def Fields.required {α : Type} (f : Fields) (name : String) (d : Decoder α) :
    Except FieldFault α :=
  match f.entries.lookup name with
  | some v => d v
  | none => .error (f.absent name)

/-- A field that may be left out. -/
def Fields.optional {α : Type} (f : Fields) (name : String) (d : Decoder α) (default : α) :
    Except FieldFault α :=
  match f.entries.lookup name with
  | some v => d v
  | none => .ok default

/-- A date or a time of day as a table.  No record has a field with the key of it. -/
def momentTable (text : String) : Table := [("$__toml_private_datetime", .string text)]

/-- A record. -/
def record {α : Type} (name : String) (form : Form) (build : Fields → Except FieldFault α) :
    Decoder α
  | .table entries => do
    visit form entries
    build ⟨entries, .missing⟩
  | .moment text => do
    visit form (momentTable text)
    build ⟨momentTable text, .missing⟩
  | .array items => do
    let entries := form.names.zip items
    visit form entries
    build ⟨entries, fun _ => .tooShort items.length name form.length⟩
  | v => .error (.wrongKind v (.record name))

end ReleaseArtifacts.Profile
