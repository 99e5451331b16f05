import ReleaseArtifacts.Formula.Render
import ReleaseArtifacts.Proofs.Formula.Lines
import ReleaseArtifacts.Proofs.Template.Printing
import Mathlib

namespace ReleaseArtifacts.Formula

/-!
# The statements of the formula template

The template of the library as a program, group by group as the lines of a formula are.  A literal
text runs from one tag to the next and over the line ends between them.

* `templateStatements` — the whole program.
* `parse_templateText` — reading the template gives this program.
-/

open Template (Statement Expr path)
open Text (unlines)

/-! ### The head of the class -/

/-- What the formula says about the package and the release. -/
def headStatements : List Statement :=
  [
    .text "class ",
    .output 1 (path 1 "formula" ["class_name"]),
    .text (unlines [" < Formula"] ++ "  desc \""),
    .output 2 (path 2 "formula" ["desc"]),
    .text (unlines ["\""] ++ "  homepage \""),
    .output 3 (path 3 "formula" ["homepage"]),
    .text (unlines ["\""] ++ "  url \""),
    .output 4 (path 4 "release" ["url"]),
    .text (unlines ["\""] ++ "  sha256 \""),
    .output 5 (path 5 "release" ["sha256"]),
    .text (unlines ["\""] ++ "  version \""),
    .output 6 (path 6 "release" ["version"]),
    .text (unlines ["\""] ++ "  license \""),
    .output 7 (path 7 "formula" ["license"]),
    .text (unlines ["\""] ++ "  head \""),
    .output 8 (path 8 "formula" ["head", "url"]),
    .text "\", branch: \"",
    .output 8 (path 8 "formula" ["head", "branch"]),
    .text (unlines ["\"", ""])
  ]

/-- A formula that is needed to build the package. -/
def dependencyStatements : List Statement :=
  [.text "  depends_on \"", .output 11 (path 11 "dependency" []), .text (unlines ["\" => :build"])]

/-! ### Installation -/

/-- The installation up to the binaries. -/
def buildStatements : List Statement :=
  [
    .text (unlines ["", "  def install"] ++ "    system "),
    .output 15 (.filter "ruby_args" (path 15 "build_invocation" []) []),
    .text (unlines ["", ""])
  ]

/-- A binary that is installed. -/
def binaryStatements : List Statement :=
  [
    .text "    libexec.install \"target/release/",
    .output 18 (path 18 "binary" []),
    .text (unlines ["\""])
  ]

/-! ### Launchers -/

/-- The environment variable of the database, or the file in the data directory. -/
def databaseExpr : Expr :=
  .call "sh_default"
    [path 41 "formula" ["runtime", "db_env"],
      .binary .join (.literal 41 (.text "$\x7bAPP_ROOT\x7d/data/"))
        (path 41 "formula" ["runtime", "db_file"])]

/-- The arguments that pass the database to a binary. -/
def passStatements : List Statement :=
  [
    .text " --db \"",
    .output 43 (.call "sh_var" [path 43 "formula" ["runtime", "db_env"]]),
    .text "\""
  ]

/-- The script of a launcher. -/
def scriptStatements : List Statement :=
  [
    .text "    (bin/\"",
    .output 26 (path 26 "launcher" ["name"]),
    .text (unlines ("\").write <<~EOS" :: startLines) ++ "      APP_ROOT=\"$\x7bHOME\x7d/"),
    .output 30 (path 30 "formula" ["runtime", "home_dir"]),
    .text (unlines ("\"" :: linkLines) ++ "      export "),
    .output 41 (path 41 "formula" ["runtime", "db_env"]),
    .text "=\"",
    .output 41 databaseExpr,
    .text (unlines ["\"", ""] ++ "      exec \"#\x7blibexec\x7d/"),
    .output 43 (path 43 "launcher" ["binary"]),
    .text "\"",
    .branch 43 (path 43 "launcher" ["pass_db"]) passStatements [],
    .text (unlines [" \"$@\"", closingLine, ""])
  ]

/-- A launcher that is made executable. -/
def modeStatements : List Statement :=
  [.text "    chmod 0755, bin/\"", .output 48 (path 48 "launcher" ["name"]), .text (unlines ["\""])]

/-! ### Caveats and test -/

/-- A launcher in the caveats. -/
def commandStatements : List Statement :=
  [
    .text "        ",
    .output 56 (.filter "ljust" (path 56 "launcher" ["name"]) [path 56 "name_width" []]),
    .text "(",
    .output 56 (path 56 "launcher" ["summary"]),
    .text (unlines [")"])
  ]

/-- The caveats after the launchers, and the smoke test. -/
def tailStatements : List Statement :=
  [
    .text (unlines ["", "      Runtime data directory:"] ++ "        ~/"),
    .output 60 (path 60 "formula" ["runtime", "home_dir"]),
    .text (unlines ["", "", "      WASM tool modules are installed at:",
      "        #\x7bpkgshare\x7d", closingLine, "  end", "", "  test do"] ++
      "    output = shell_output(\"#\x7bbin\x7d/"),
    .output 68 (path 68 "formula" ["test", "command"]),
    .text (unlines ["\")"] ++ "    assert_match \""),
    .output 69 (path 69 "formula" ["test", "expect"]),
    .text (unlines ["\", output", "  end", "end"])
  ]

/-! ### The whole template -/

/-- A loop over a list of the package. -/
def each (line : Nat) (target list : String) (body : List Statement) : Statement :=
  .loop line target (path line "formula" [list]) none body []

/-- The statements of the template. -/
def templateStatements : List Statement :=
  headStatements ++ (each 10 "dependency" "build_dependencies" dependencyStatements ::
    (buildStatements ++ (each 17 "binary" "binaries" binaryStatements ::
      .text (unlines moduleLines) :: each 25 "launcher" "launchers" scriptStatements ::
      .text "" :: each 47 "launcher" "launchers" modeStatements ::
      .text (unlines caveatsLines) :: each 55 "launcher" "launchers" commandStatements ::
      tailStatements)))

/-- The characters of the template, line by line. -/
theorem toList_templateText :
    templateText.toList = templateLines.flatMap fun l => l.toList ++ ['\n'] := by
  rw [templateText, String.toList_join, List.flatMap_map]
  simp only [String.toList_append]
  rfl

/-- The steps of reading a template: its tags, and the statements they write. -/
theorem parse_eq_some {source : String} {scanned : Template.Source} {built : Template.Builder}
    {statements : List Statement} (hscan : Template.Source.scan source.toList = some scanned)
    (hrun : Template.Builder.start.run scanned.items = some built)
    (hfinish : built.finish = some statements) : Statement.parse source = some statements := by
  rw [Statement.parse, hscan]
  show (Template.Builder.start.run scanned.items).bind Template.Builder.finish = _
  rw [hrun]
  exact hfinish

set_option maxRecDepth 100000 in
/-- **Reading the template** gives its statements. -/
theorem parse_templateText : Statement.parse templateText = some templateStatements := by
  apply parse_eq_some
  case hscan =>
    rw [toList_templateText, templateLines]
    simp only [List.flatMap_cons, List.flatMap_nil]
    -- The characters of a literal are read off its definition: evaluating `toList` would decode it.
    repeat rw [String.toList_ofList]
    conv => lhs; cbv
  case hrun =>
    conv => lhs; cbv
  case hfinish =>
    conv => lhs; cbv
    cbv

end ReleaseArtifacts.Formula
