import ReleaseArtifacts.Formula.Arguments
import ReleaseArtifacts.Profile.Basic
import ReleaseArtifacts.Proofs.Text.Lines
import ReleaseArtifacts.Release

namespace ReleaseArtifacts.Formula

/-!
# The lines of a formula

A formula written down line by line, without a template.  Each group of lines is a definition of its
own; the groups that stand once for each dependency, binary or launcher are made from one line, or
one block of lines, by `List.map` and `List.flatMap`.

* `formulaLines p r` — all lines; `formulaText p r` — the text, each line with a line feed.
-/

/-! ### The head of the class -/

/-- Where the source of the release is. -/
def urlLine (url : String) : String := "  url \"" ++ url ++ "\""

/-- The checksum of the source of the release. -/
def checksumLine (sha256 : String) : String := "  sha256 \"" ++ sha256 ++ "\""

/-- The number of the release. -/
def versionLine (version : String) : String := "  version \"" ++ version ++ "\""

/-- The first lines of the class. -/
def titleLines (p : Profile) : List String :=
  [
    "class " ++ p.className ++ " < Formula",
    "  desc \"" ++ p.desc ++ "\"",
    "  homepage \"" ++ p.homepage ++ "\""
  ]

/-- What the formula says about the release. -/
def releaseLines (r : Release) : List String :=
  [urlLine r.url, checksumLine r.sha256, versionLine r.version]

/-- Where unreleased versions are built from. -/
def headLine (h : HeadSource) : String :=
  "  head \"" ++ h.url ++ "\", branch: \"" ++ h.branch ++ "\""

/-- What stands between the release and the build dependencies. -/
def sourceLines (p : Profile) : List String :=
  ["  license \"" ++ p.license ++ "\"", headLine p.head, ""]

/-- What the formula says about the package and the release. -/
def headLines (p : Profile) (r : Release) : List String :=
  titleLines p ++ (releaseLines r ++ sourceLines p)

/-- A formula that is needed to build the package. -/
def dependencyLine (dependency : String) : String :=
  "  depends_on \"" ++ dependency ++ "\" => :build"

/-! ### Installation -/

/-- The call that builds the binaries. -/
def systemLine (p : Profile) : String := "    system " ++ argumentList p.buildInvocation

/-- The installation up to the binaries. -/
def buildLines (p : Profile) : List String := ["", "  def install", systemLine p, ""]

/-- A binary that is installed. -/
def binaryLine (binary : String) : String :=
  "    libexec.install \"target/release/" ++ binary ++ "\""

/-- The tool modules that are installed. -/
def moduleLines : List String :=
  [
    "",
    "    wasm_modules = Dir[\"wasm/*_tool.wasm\"]",
    "    odie \"No wasm tool modules found under wasm/\" if wasm_modules.empty?",
    "    pkgshare.install wasm_modules",
    ""
  ]

/-! ### Launchers -/

/-- The line that opens the script of a launcher. -/
def openingLine (l : Launcher) : String := "    (bin/\"" ++ l.name ++ "\").write <<~EOS"

/-- The first lines of a script. -/
def startLines : List String := ["      #!/bin/bash", "      set -euo pipefail", ""]

/-- The part of a script between the lines about the data directory and about the database. -/
def linkLines : List String :=
  [
    "      mkdir -p \"$\x7bAPP_ROOT\x7d\" \"$\x7bAPP_ROOT\x7d/data\"",
    "",
    "      if [[ -e \"$\x7bAPP_ROOT\x7d/wasm\" && ! -L \"$\x7bAPP_ROOT\x7d/wasm\" ]]; then",
    "        rm -rf \"$\x7bAPP_ROOT\x7d/wasm\"",
    "      fi",
    "      if [[ ! -L \"$\x7bAPP_ROOT\x7d/wasm\" ]]; then",
    "        ln -sfn \"#\x7bpkgshare\x7d\" \"$\x7bAPP_ROOT\x7d/wasm\"",
    "      fi",
    "",
    "      cd \"$\x7bAPP_ROOT\x7d\""
  ]

/-- Where a script looks for the data directory. -/
def rootLine (r : RuntimeLayout) : String := "      APP_ROOT=\"$\x7bHOME\x7d/" ++ r.homeDir ++ "\""

/-- Where a script looks for the database: the variable, or a file in the data directory. -/
def databaseLine (r : RuntimeLayout) : String :=
  "      export " ++ r.dbEnv ++ "=\"" ++ "$\x7b" ++ r.dbEnv ++ ":-" ++ "$\x7bAPP_ROOT\x7d/data/" ++
    r.dbFile ++ "\x7d" ++ "\""

/-- What a script does before it starts its binary. -/
def bootstrapLines (r : RuntimeLayout) : List String :=
  startLines ++ rootLine r :: (linkLines ++ [databaseLine r, ""])

/-- The arguments that pass the database to a binary, for the launchers that do. -/
def databaseArguments (r : RuntimeLayout) (l : Launcher) : String :=
  if l.passDb then " --db \"" ++ "$\x7b" ++ r.dbEnv ++ "\x7d" ++ "\"" else ""

/-- The line that starts the binary of a launcher. -/
def execLine (r : RuntimeLayout) (l : Launcher) : String :=
  "      exec \"#\x7blibexec\x7d/" ++ l.binary ++ "\"" ++ databaseArguments r l ++ " \"$@\""

/-- The line that closes a script, and the caveats. -/
def closingLine : String := "    EOS"

/-- The script of a launcher. -/
def scriptLines (r : RuntimeLayout) (l : Launcher) : List String :=
  openingLine l :: (bootstrapLines r ++ [execLine r l, closingLine, ""])

/-- A launcher that is made executable. -/
def modeLine (l : Launcher) : String := "    chmod 0755, bin/\"" ++ l.name ++ "\""

/-! ### Caveats and test -/

/-- The line that opens the caveats. -/
def caveatsLine : String := "    <<~EOS"

/-- The caveats up to the launchers. -/
def caveatsLines : List String :=
  ["  end", "", "  def caveats", caveatsLine, "      Installed commands:"]

/-- A launcher in the caveats: its name fills a column. -/
def commandLine (width : Nat) (l : Launcher) : String :=
  "        " ++ Text.padRight l.name width ++ "(" ++ l.summary ++ ")"

/-- The caveats after the launchers. -/
def noteLines (p : Profile) : List String :=
  [
    "",
    "      Runtime data directory:",
    "        ~/" ++ p.runtime.homeDir,
    "",
    "      WASM tool modules are installed at:",
    "        #\x7bpkgshare\x7d"
  ]

/-- The formula after the caveats: the smoke test. -/
def testLines (p : Profile) : List String :=
  [
    "  end",
    "",
    "  test do",
    "    output = shell_output(\"#\x7bbin\x7d/" ++ p.test.command ++ "\")",
    "    assert_match \"" ++ p.test.expect ++ "\", output",
    "  end",
    "end"
  ]

/-- The rest of the caveats, and the smoke test. -/
def tailLines (p : Profile) : List String := noteLines p ++ closingLine :: testLines p

/-! ### The whole formula -/

/-- The lines after the head of the class: they depend on the package only. -/
def bodyLines (p : Profile) : List String :=
  p.buildDependencies.map dependencyLine ++ (buildLines p ++ (p.binaries.map binaryLine ++
    (moduleLines ++ (p.launchers.flatMap (scriptLines p.runtime) ++ (p.launchers.map modeLine ++
      (caveatsLines ++ (p.launchers.map (commandLine p.columnWidth) ++ tailLines p)))))))

/-- The lines of the formula of a package and a release. -/
def formulaLines (p : Profile) (r : Release) : List String := headLines p r ++ bodyLines p

/-- The formula of a package and a release. -/
def formulaText (p : Profile) (r : Release) : String := Text.unlines (formulaLines p r)

end ReleaseArtifacts.Formula
