namespace ReleaseArtifacts.Profile

/-!
# The package profile of the application

* `packageLines` — the profile that formulas are made for unless another one is given.
* `packageText` — its text; `packageName` — the name of the document.
-/

/-- The name of the document. -/
def packageName : String := "package.toml"

/-- The lines of the document. -/
def packageLines : List String :=
  [
    "class_name = \"ButterflyBot\"",
    "desc = \"Local-first AI assistant with CLI, daemon, desktop UI, and WASM tools\"",
    "homepage = \"https://github.com/truemagic-coder/butterfly-bot\"",
    "license = \"MIT\"",
    "build_dependencies = [\"pkgconf\", \"rust\", \"protobuf\"]",
    "binaries = [\"butterfly-bot\", \"butterfly-botd\"]",
    "",
    "[head]",
    "url = \"https://github.com/truemagic-coder/butterfly-bot.git\"",
    "branch = \"main\"",
    "",
    "[runtime]",
    "home_dir = \".butterfly-bot\"",
    "db_env = \"BUTTERFLY_BOT_DB\"",
    "db_file = \"butterfly-bot.db\"",
    "",
    "[[launchers]]",
    "name = \"butterfly-bot\"",
    "binary = \"butterfly-bot\"",
    "summary = \"primary desktop app\"",
    "",
    "[[launchers]]",
    "name = \"butterfly-botd\"",
    "binary = \"butterfly-botd\"",
    "summary = \"daemon launcher\"",
    "pass_db = true",
    "",
    "[test]",
    "command = \"butterfly-bot --help\"",
    "expect = \"ButterFly Bot CLI\""
  ]

/-- The text of the document. -/
def packageText : String :=
  String.join (packageLines.map (· ++ "\n"))

end ReleaseArtifacts.Profile
