import ReleaseArtifacts.Profile.Read
import Mathlib

namespace ReleaseArtifacts.Profile

/-!
# The profile of the application

* `application` — the profile, as a record.
* `parse_packageText` — reading the document of the library gives this profile.
-/

/-- The profile of the application. -/
def application : Profile where
  className := "ButterflyBot"
  desc := "Local-first AI assistant with CLI, daemon, desktop UI, and WASM tools"
  homepage := "https://github.com/truemagic-coder/butterfly-bot"
  license := "MIT"
  head := ⟨"https://github.com/truemagic-coder/butterfly-bot.git", "main"⟩
  buildDependencies := ["pkgconf", "rust", "protobuf"]
  binaries := ["butterfly-bot", "butterfly-botd"]
  runtime := ⟨".butterfly-bot", "BUTTERFLY_BOT_DB", "butterfly-bot.db"⟩
  launchers :=
    [
      ⟨"butterfly-bot", "butterfly-bot", "primary desktop app", false⟩,
      ⟨"butterfly-botd", "butterfly-botd", "daemon launcher", true⟩
    ]
  test := ⟨"butterfly-bot --help", "ButterFly Bot CLI"⟩

/-- The characters of the document, line by line. -/
theorem toList_packageText :
    packageText.toList = packageLines.flatMap fun l => l.toList ++ ['\n'] := by
  rw [packageText, String.toList_join, List.flatMap_map]
  simp only [String.toList_append]
  rfl

/-- The steps of reading a profile: lines, a table, fields that fit, and rules that are kept. -/
theorem parse_eq_ok {text : String} {lines : List Toml.Line} {table : Toml.Table} {p : Profile}
    (hlines : Toml.lines? text.toList = some lines)
    (htable : (Toml.Document.ofLines lines).table? = some table)
    (hfields : ofTable table = .ok p) (hrules : p.defect? = none) : parse text = .ok p := by
  have hparse : Toml.parse text = some table := by
    rw [Toml.parse, hlines]
    exact htable
  rw [parse, hparse]
  simp only [hfields]
  rw [checked, hrules]

set_option maxRecDepth 100000 in
/-- **The document can be read.**  Its launchers start binaries that the package has. -/
theorem parse_packageText : parse packageText = .ok application := by
  apply parse_eq_ok
  case hlines =>
    rw [toList_packageText, packageLines]
    simp only [List.flatMap_cons, List.flatMap_nil]
    -- The characters of a literal are read off its definition: evaluating `toList` would decode it.
    repeat rw [String.toList_ofList]
    conv => lhs; cbv
  case htable =>
    conv => lhs; cbv
  case hfields =>
    conv => lhs; cbv
    rfl
  case hrules => decide

end ReleaseArtifacts.Profile
