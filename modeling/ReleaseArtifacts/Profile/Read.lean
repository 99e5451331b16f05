import ReleaseArtifacts.Fault.Basic
import ReleaseArtifacts.Profile.Basic
import ReleaseArtifacts.Profile.Decoder
import ReleaseArtifacts.Profile.Package
import ReleaseArtifacts.Toml.Document

namespace ReleaseArtifacts.Profile

/-!
# Reading package profiles

* `ofTable` — the profile that a document holds.
* `parse` — the profile that a text holds: the text has to be a document, its fields have to fit,
  and the profile has to keep the rules, in this order.
* `ReadFault` — which of the three went wrong.
-/

/-! ### The records of a profile -/

/-- The fields of a repository. -/
def headForm : Form := [("url", checking text), ("branch", checking text)]

/-- A repository. -/
def headSource : Decoder HeadSource :=
  record "HeadSource" headForm fun f => do
    let url ← f.required "url" text
    let branch ← f.required "branch" text
    return ⟨url, branch⟩

/-- The fields of a data directory. -/
def runtimeForm : Form :=
  [("home_dir", checking text), ("db_env", checking text), ("db_file", checking text)]

/-- A data directory. -/
def runtimeLayout : Decoder RuntimeLayout :=
  record "RuntimeLayout" runtimeForm fun f => do
    let homeDir ← f.required "home_dir" text
    let dbEnv ← f.required "db_env" text
    let dbFile ← f.required "db_file" text
    return ⟨homeDir, dbEnv, dbFile⟩

/-- The fields of a launcher. -/
def launcherForm : Form :=
  [("name", checking text), ("binary", checking text), ("summary", checking text),
    ("pass_db", checking flag)]

/-- A launcher; unless it says so, it does not pass the database. -/
def launcher : Decoder Launcher :=
  record "Launcher" launcherForm fun f => do
    let name ← f.required "name" text
    let binary ← f.required "binary" text
    let summary ← f.required "summary" text
    let passDb ← f.optional "pass_db" flag false
    return ⟨name, binary, summary, passDb⟩

/-- The fields of a smoke test. -/
def testForm : Form := [("command", checking text), ("expect", checking text)]

/-- A smoke test. -/
def smokeTest : Decoder SmokeTest :=
  record "SmokeTest" testForm fun f => do
    let command ← f.required "command" text
    let expect ← f.required "expect" text
    return ⟨command, expect⟩

/-- The fields of a profile. -/
def profileForm : Form :=
  [("class_name", checking text), ("desc", checking text), ("homepage", checking text),
    ("license", checking text), ("head", checking headSource),
    ("build_dependencies", checking (list text)), ("binaries", checking (list text)),
    ("runtime", checking runtimeLayout), ("launchers", checking (list launcher)),
    ("test", checking smokeTest)]

/-- A profile; unless it says so, it has no build dependencies. -/
def profile : Decoder Profile :=
  record "FormulaProfile" profileForm fun f => do
    let className ← f.required "class_name" text
    let desc ← f.required "desc" text
    let homepage ← f.required "homepage" text
    let license ← f.required "license" text
    let head ← f.required "head" headSource
    let buildDependencies ← f.optional "build_dependencies" (list text) []
    let binaries ← f.required "binaries" (list text)
    let runtime ← f.required "runtime" runtimeLayout
    let launchers ← f.required "launchers" (list launcher)
    let test ← f.required "test" smokeTest
    return ⟨className, desc, homepage, license, head, buildDependencies, binaries, runtime,
      launchers, test⟩

/-- The profile that a document holds. -/
def ofTable (table : Toml.Table) : Except FieldFault Profile := profile (.table table)

/-! ### Texts -/

/-- Why a text holds no profile. -/
inductive ReadFault
  /-- the text is no document -/
  | malformed
  /-- the document does not have the fields of a profile -/
  | field (cause : FieldFault)
  /-- the profile breaks a rule -/
  | rule (cause : Defect)

/-- The text of a fault. -/
def ReadFault.message : ReadFault → String
  | malformed => "the text is not a document"
  | field cause => cause.message
  | rule cause => cause.message

/-- The fault of the library that it amounts to. -/
def ReadFault.toFault (f : ReadFault) : Fault := .invalidProfile f.message

/-- A profile that keeps the rules. -/
def checked (p : Profile) : Except ReadFault Profile :=
  match p.defect? with
  | some d => .error (.rule d)
  | none => .ok p

/-- What comes out of the check is the profile, and it keeps the rules. -/
theorem checked_eq_ok {p p' : Profile} (h : p.checked = .ok p') : p' = p ∧ p.Valid := by
  unfold checked at h
  split at h
  · cases h
  · rename_i hnone
    cases h
    exact ⟨rfl, (defect?_eq_none_iff p).mp hnone⟩

/-- The profile that a text holds. -/
def parse (text : String) : Except ReadFault Profile :=
  match Toml.parse text with
  | none => .error .malformed
  | some table =>
    match ofTable table with
    | .error cause => .error (.field cause)
    | .ok p => p.checked

/-- A text holds profiles that keep the rules only. -/
theorem valid_of_parse {text : String} {p : Profile} (h : parse text = .ok p) : p.Valid := by
  unfold parse at h
  split at h
  · cases h
  · split at h
    · cases h
    · obtain ⟨rfl, hvalid⟩ := checked_eq_ok h
      exact hvalid

/-- The profile of the application. -/
def package : Except ReadFault Profile := parse packageText

end ReleaseArtifacts.Profile
