import ReleaseArtifacts.CommandLine.Parse
import ReleaseArtifacts.Formula.Write
import ReleaseArtifacts.Icons.Generate

namespace ReleaseArtifacts.CommandLine

/-!
# Running command lines

* `Outcome` — what a run leaves to be seen: an exit code and two texts.
* `run` — runs a command line.
-/

/-- What a run leaves to be seen. -/
structure Outcome where
  code : Nat
  /-- the text on the standard output -/
  output : String
  /-- the text on the standard error output -/
  errors : String
deriving DecidableEq, Repr

namespace Outcome

/-- A run that succeeds. -/
def success (text : String) : Outcome := ⟨0, text, ""⟩

/-- A run with a fault. -/
def failure (fault : Fault) : Outcome := ⟨1, "", "Error: " ++ fault.message ++ "\n"⟩

/-- A run that is given up. -/
def givenUp : Outcome := ⟨101, "", "the run was given up\n"⟩

/-- A run that asks for nothing. -/
def misuse : UsageFault → Outcome
  | .noCommand => ⟨2, "", Page.main.text⟩
  | fault => ⟨2, "", "error: " ++ fault.message ++ "\n\nFor more information, try '--help'.\n"⟩

/-- A run of the formula command. -/
def ofFormula : Except Breakdown String → Outcome
  | .ok path => success ("✅ Wrote formula to " ++ path ++ "\n")
  | .error (.fault fault) => failure fault
  | .error .aborted => givenUp

/-- A run of the icons command. -/
def ofIcons : Except Fault IconReport → Outcome
  | .ok report =>
    success
      ("✅ Generated " ++ toString report.count ++ " icon sizes from " ++ report.source ++ "\n")
  | .error fault => failure fault

end Outcome

variable {m : Type → Type} [Monad m] [Storage m]

/-- Does what a command line asks for. -/
def perform : Request → m Outcome
  | .help page => return .success page.text
  | .version => return .success (programName ++ " " ++ programVersion ++ "\n")
  | .formula version url sha256 output => do
    return .ofFormula (← (Formula.writeHere ⟨version, url, sha256⟩ output).run)
  | .icons => do return .ofIcons (← generateIconsHere.run)

/-- Runs a command line. -/
def run (arguments : List String) : m Outcome :=
  match parse arguments with
  | .ok request => perform request
  | .error fault => return .misuse fault

end ReleaseArtifacts.CommandLine
