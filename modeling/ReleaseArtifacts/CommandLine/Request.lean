namespace ReleaseArtifacts.CommandLine

/-!
# Requests

* `Request` — what a command line asks for.
* `FormulaOption` — what has to be said about a formula.
* `Page` — the pages of help, with `Page.text`.
* `UsageFault` — why a command line asks for nothing, with `UsageFault.message`.
-/

/-- The name of the program. -/
def programName : String := "butterfly-release"

/-- The version of the program. -/
def programVersion : String := "0.1.0"

/-! ### Commands and options -/

/-- What the program can do. -/
inductive Command
  | formula
  | icons
  /-- shows a page of help -/
  | help
deriving DecidableEq, Repr

/-- The command that a word names. -/
def Command.ofName? (name : String) : Option Command :=
  if name = "formula" ∨ name = "f" then some .formula
  else if name = "icons" ∨ name = "i" then some .icons
  else if name = "help" then some .help
  else none

/-- What has to be said about a formula. -/
inductive FormulaOption
  | version
  | url
  | sha256
  | output
deriving DecidableEq, Repr

namespace FormulaOption

/-- All options, in the order in which they are listed. -/
def all : List FormulaOption := [version, url, sha256, output]

/-- The option that a word names. -/
def ofName? (name : String) : Option FormulaOption :=
  if name = "version" then some version
  else if name = "url" then some url
  else if name = "sha256" ∨ name = "checksum" then some sha256
  else if name = "output" then some output
  else none

/-- An option with what stands for its value. -/
def usage : FormulaOption → String
  | version => "--version <VERSION>"
  | url => "--url <URL>"
  | sha256 => "--sha256 <SHA256>"
  | output => "--output <OUTPUT>"

end FormulaOption

/-! ### Help -/

/-- A page of help. -/
inductive Page
  | main
  | formula
  | icons
  | help
deriving DecidableEq, Repr

/-- The page about a command. -/
def Command.page : Command → Page
  | formula => .formula
  | icons => .icons
  | help => .help

/-- Several lines. -/
def lines (texts : List String) : String := String.join (texts.map (· ++ "\n"))

/-- The text of a page. -/
def Page.text : Page → String
  | main => lines
    ["Generate Butterfly Bot release artifacts (Homebrew formula, hicolor icons)",
      "",
      "Usage: butterfly-release <COMMAND>",
      "",
      "Commands:",
      "  formula  Render the Homebrew formula for a release [alias: f]",
      "  icons    Generate hicolor icons from assets/icon.png [alias: i]",
      "  help     Print this message or the help of the given subcommand(s)",
      "",
      "Options:",
      "  -h, --help     Print help",
      "  -V, --version  Print version"]
  | formula => lines
    ["Render the Homebrew formula for a release",
      "",
      "Usage: butterfly-release formula --version <VERSION> --url <URL> --sha256 <SHA256> " ++
        "--output <OUTPUT>",
      "",
      "Options:",
      "      --version <VERSION>  Release version written to the formula",
      "      --url <URL>          Download URL of the release source archive",
      "      --sha256 <SHA256>    SHA-256 checksum of the archive",
      "      --output <OUTPUT>    Path the formula is written to (parent directories are created)",
      "  -h, --help               Print help"]
  | icons => lines
    ["Generate hicolor icons from assets/icon.png",
      "",
      "Usage: butterfly-release icons",
      "",
      "Options:",
      "  -h, --help  Print help"]
  | help => lines
    ["Print this message or the help of the given subcommand(s)",
      "",
      "Usage: butterfly-release help [COMMAND]...",
      "",
      "Arguments:",
      "  [COMMAND]...  Print help for the subcommand(s)"]

/-! ### Requests -/

/-- What a command line asks for. -/
inductive Request
  | help (page : Page)
  | version
  | formula (version url sha256 output : String)
  | icons
deriving DecidableEq, Repr

/-- Why a command line asks for nothing. -/
inductive UsageFault
  /-- there is no command -/
  | noCommand
  | unknownCommand (name : String)
  | unexpectedArgument (argument : String)
  /-- a flag that has no value was given one -/
  | unexpectedValue (value flag : String)
  | valueMissing (option : FormulaOption)
  | repeated (option : FormulaOption)
  | missing (options : List FormulaOption)
deriving DecidableEq, Repr

/-- The text of a fault. -/
def UsageFault.message : UsageFault → String
  | noCommand => "a command is required"
  | unknownCommand name => "unrecognized subcommand '" ++ name ++ "'"
  | unexpectedArgument argument => "unexpected argument '" ++ argument ++ "' found"
  | unexpectedValue value flag =>
    "unexpected value '" ++ value ++ "' for '" ++ flag ++ "' found; no more were expected"
  | valueMissing option =>
    "a value is required for '" ++ option.usage ++ "' but none was supplied"
  | repeated option => "the argument '" ++ option.usage ++ "' cannot be used multiple times"
  | missing options =>
    "the following required arguments were not provided:" ++
      String.join (options.map fun o => "\n  " ++ o.usage)

end ReleaseArtifacts.CommandLine
