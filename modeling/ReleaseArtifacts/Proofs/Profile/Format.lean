import ReleaseArtifacts.Profile.Read
import Mathlib

namespace ReleaseArtifacts.Profile

/-!
# The format of profile documents

Which documents hold a profile, and which one they hold, said without the decoders.

* `IsText`, `IsFlag`, `IsList`, `IsRecord` — what a value may be.  A record is a table of its fields
  or an array of them in their own order; only some of them may be left out.
* `Conforms` — the root table has the fields of a profile and no others.
* `given` — the value that a record has for a field; `HoldsHead`, …, `HoldsProfile` say that these
  values are those of a profile.
* `KeepsRules` — the rules of a profile, as they read in the document.
-/

open Toml (Value Table)

/-! ### Values -/

/-- A string. -/
def IsText (v : Value) : Prop := ∃ s, v = .string s

/-- A truth value. -/
def IsFlag (v : Value) : Prop := ∃ b, v = .boolean b

/-- An array, all of whose items are of one kind. -/
def IsList (Item : Value → Prop) (v : Value) : Prop :=
  ∃ items, v = .array items ∧ ∀ x ∈ items, Item x

/-- A field of a record: its name, what it may hold, and whether it may be left out. -/
structure Field where
  name : String
  Fits : Value → Prop
  mayMiss : Bool

/-- A table with these fields: every key is the name of one and has a value that fits, and no field
    is missing that has to be there. -/
structure FitsTable (fields : List Field) (entries : Table) : Prop where
  known : ∀ e ∈ entries, ∃ f ∈ fields, f.name = e.1 ∧ f.Fits e.2
  complete : ∀ f ∈ fields, f.mayMiss = false → ∃ v, (f.name, v) ∈ entries

/-- An array that begins with these fields in their order.  What comes after them is not looked
    at. -/
structure FitsArray (fields : List Field) (items : List Value) : Prop where
  known : ∀ (i : Nat) f v, fields[i]? = some f → items[i]? = some v → f.Fits v
  complete : ∀ (i : Nat) f, fields[i]? = some f → f.mayMiss = false → i < items.length

/-- A record in either notation. -/
inductive IsRecord (fields : List Field) : Value → Prop
  | table {entries : Table} : FitsTable fields entries → IsRecord fields (.table entries)
  | array {items : List Value} : FitsArray fields items → IsRecord fields (.array items)

/-- The value that a record has for a field: the one under its name in a table, the one in its place
    in an array. -/
def given (fields : List Field) : Value → String → Option Value
  | .table entries, name => entries.lookup name
  | .array items, name => (fields.findIdx? fun f => f.name = name).bind (items[·]?)
  | _, _ => none

/-! ### The fields of a profile -/

def headFields : List Field := [⟨"url", IsText, false⟩, ⟨"branch", IsText, false⟩]

def runtimeFields : List Field :=
  [⟨"home_dir", IsText, false⟩, ⟨"db_env", IsText, false⟩, ⟨"db_file", IsText, false⟩]

def launcherFields : List Field :=
  [⟨"name", IsText, false⟩, ⟨"binary", IsText, false⟩, ⟨"summary", IsText, false⟩,
    ⟨"pass_db", IsFlag, true⟩]

def testFields : List Field := [⟨"command", IsText, false⟩, ⟨"expect", IsText, false⟩]

def profileFields : List Field :=
  [⟨"class_name", IsText, false⟩, ⟨"desc", IsText, false⟩, ⟨"homepage", IsText, false⟩,
    ⟨"license", IsText, false⟩, ⟨"head", IsRecord headFields, false⟩,
    ⟨"build_dependencies", IsList IsText, true⟩, ⟨"binaries", IsList IsText, false⟩,
    ⟨"runtime", IsRecord runtimeFields, false⟩,
    ⟨"launchers", IsList (IsRecord launcherFields), false⟩,
    ⟨"test", IsRecord testFields, false⟩]

/-- The root table of a document that has the fields of a profile. -/
def Conforms (table : Table) : Prop := FitsTable profileFields table

/-! ### What a document holds -/

structure HoldsHead (get : String → Option Value) (h : HeadSource) : Prop where
  url : get "url" = some (.string h.url)
  branch : get "branch" = some (.string h.branch)

structure HoldsRuntime (get : String → Option Value) (r : RuntimeLayout) : Prop where
  homeDir : get "home_dir" = some (.string r.homeDir)
  dbEnv : get "db_env" = some (.string r.dbEnv)
  dbFile : get "db_file" = some (.string r.dbFile)

/-- A launcher; the flag counts as false if it is left out. -/
structure HoldsLauncher (get : String → Option Value) (l : Launcher) : Prop where
  name : get "name" = some (.string l.name)
  binary : get "binary" = some (.string l.binary)
  summary : get "summary" = some (.string l.summary)
  passDb : (get "pass_db").getD (.boolean false) = .boolean l.passDb

structure HoldsTest (get : String → Option Value) (t : SmokeTest) : Prop where
  command : get "command" = some (.string t.command)
  expect : get "expect" = some (.string t.expect)

/-- A profile; there are no build dependencies if they are left out. -/
structure HoldsProfile (get : String → Option Value) (p : Profile) : Prop where
  className : get "class_name" = some (.string p.className)
  desc : get "desc" = some (.string p.desc)
  homepage : get "homepage" = some (.string p.homepage)
  license : get "license" = some (.string p.license)
  head : ∃ v, get "head" = some v ∧ HoldsHead (given headFields v) p.head
  buildDependencies :
    (get "build_dependencies").getD (.array []) = .array (p.buildDependencies.map .string)
  binaries : get "binaries" = some (.array (p.binaries.map .string))
  runtime : ∃ v, get "runtime" = some v ∧ HoldsRuntime (given runtimeFields v) p.runtime
  launchers : ∃ items, get "launchers" = some (.array items) ∧
    List.Forall₂ (fun v l => HoldsLauncher (given launcherFields v) l) items p.launchers
  test : ∃ v, get "test" = some v ∧ HoldsTest (given testFields v) p.test

/-- There are binaries and launchers, and every launcher starts one of the binaries. -/
structure KeepsRules (table : Table) : Prop where
  binaries : table.lookup "binaries" ≠ some (.array [])
  launchers : table.lookup "launchers" ≠ some (.array [])
  targets : ∀ bs ls, table.lookup "binaries" = some (.array bs) →
    table.lookup "launchers" = some (.array ls) →
    ∀ l ∈ ls, ∃ b ∈ bs, given launcherFields l "binary" = some b

end ReleaseArtifacts.Profile
