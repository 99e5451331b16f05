import ReleaseArtifacts.Text.Padding

namespace ReleaseArtifacts

/-!
# Package profiles

What a formula says about a package, apart from the release.

* `Profile` — the package, its source, its binaries, the launchers it installs, and its smoke test.
* `Profile.defect?` — the first rule that a profile breaks; `Profile.Valid` says the rules.
* `Profile.buildInvocation` — the command that builds the binaries.
* `Profile.columnWidth` — the width of the launcher column in the caveats.
-/

/-- The repository that unreleased versions are built from. -/
structure HeadSource where
  url : String
  branch : String
deriving DecidableEq, Repr

/-- Where the package keeps its data, below the home directory of its user. -/
structure RuntimeLayout where
  homeDir : String
  dbEnv : String
  dbFile : String
deriving DecidableEq, Repr

/-- A script that starts a binary. -/
structure Launcher where
  name : String
  binary : String
  summary : String
  passDb : Bool
deriving DecidableEq, Repr

/-- A command, and what it has to print. -/
structure SmokeTest where
  command : String
  expect : String
deriving DecidableEq, Repr

/-- A package. -/
structure Profile where
  className : String
  desc : String
  homepage : String
  license : String
  head : HeadSource
  buildDependencies : List String
  binaries : List String
  runtime : RuntimeLayout
  launchers : List Launcher
  test : SmokeTest
deriving DecidableEq, Repr

namespace Profile

/-! ### Rules -/

/-- A rule that a profile breaks. -/
inductive Defect
  | noBinary
  | noLauncher
  | unknownBinary (launcher binary : String)
deriving DecidableEq, Repr

/-- The text of a broken rule. -/
def Defect.message : Defect → String
  | noBinary => "at least one binary is required"
  | noLauncher => "at least one launcher is required"
  | unknownBinary launcher binary =>
    "launcher '" ++ launcher ++ "' targets unknown binary '" ++ binary ++ "'"

/-- The rules: there are binaries and launchers, and every launcher starts one of the binaries. -/
structure Valid (p : Profile) : Prop where
  binaries : p.binaries ≠ []
  launchers : p.launchers ≠ []
  targets : ∀ l ∈ p.launchers, l.binary ∈ p.binaries

/-- The first launcher that starts none of the binaries. -/
def strayLauncher? (p : Profile) : Option Launcher :=
  p.launchers.find? fun l => !p.binaries.contains l.binary

/-- The first rule that a profile breaks. -/
def defect? (p : Profile) : Option Defect :=
  if p.binaries.isEmpty then some .noBinary
  else if p.launchers.isEmpty then some .noLauncher
  else p.strayLauncher?.map fun l => .unknownBinary l.name l.binary

/-- A profile breaks no rule exactly if it is valid. -/
theorem defect?_eq_none_iff (p : Profile) : p.defect? = none ↔ p.Valid := by
  unfold defect? strayLauncher?
  constructor
  · intro h
    split at h
    · cases h
    · rename_i hb
      split at h
      · cases h
      · rename_i hl
        simp only [Option.map_eq_none_iff, List.find?_eq_none] at h
        exact ⟨by simpa using hb, by simpa using hl, by simpa using h⟩
  · rintro ⟨hb, hl, ht⟩
    simp [hb, hl, List.find?_eq_none]
    exact ht

/-! ### Derived facts -/

/-- The command that builds the binaries of a package, one after the other. -/
def buildInvocation (p : Profile) : List String :=
  ["cargo", "build", "--release", "--locked"] ++ p.binaries.flatMap fun b => ["--bin", b]

/-- The blank columns between the longest launcher name and its summary. -/
def columnGap : Nat := 3

/-- The length of the longest launcher name in bytes. -/
def longestName (p : Profile) : Nat :=
  (p.launchers.map fun l => Text.byteWidth l.name).foldl max 0

/-- The width of the launcher column. -/
def columnWidth (p : Profile) : Nat := p.longestName + columnGap

end Profile

end ReleaseArtifacts
