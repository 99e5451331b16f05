import ReleaseArtifacts.CommandLine.Run

namespace ReleaseArtifacts

/-!
# The program

Runs a command line on the file system of the machine.
-/

/-- The number of an error that the machine reports. -/
def errorNumber? : IO.Error → Option UInt32
  | .alreadyExists _ code _ | .otherError code _ | .resourceBusy code _
  | .resourceVanished code _ | .unsupportedOperation code _ | .hardwareFault code _
  | .unsatisfiedConstraints code _ | .illegalOperation code _ | .protocolError code _
  | .timeExpired code _ | .interrupted _ code _ | .noFileOrDirectory _ code _
  | .invalidArgument _ code _ | .permissionDenied _ code _ | .resourceExhausted _ code _
  | .inappropriateType _ code _ | .noSuchThing _ code _ => some code
  | .unexpectedEof | .userError _ => none

/-- The fault that an error of the machine stands for. -/
def faultOf (error : IO.Error) : IoFault :=
  match errorNumber? error with
  | some code => .system code.toNat
  | none => .custom .other error.toString

/-- Reports what goes wrong. -/
def attempt {α : Type} (action : IO α) : IO (Except IoFault α) := do
  try return .ok (← action) catch error => return .error (faultOf error)

/-- The machine offers its files. -/
instance : Storage IO where
  currentPath := attempt do return (← IO.currentDir).toString
  hasFile path := do
    try return (← (← IO.FS.realPath path).metadata).type == .file catch _ => return false
  contents path := attempt do return (← IO.FS.readBinFile path).toList
  write path contents := attempt do
    match Path.folders path with
    | [] => pure ()
    | folder :: _ => IO.FS.createDirAll folder
    IO.FS.writeBinFile path ⟨contents.toArray⟩

end ReleaseArtifacts

/-- Runs the command line. -/
def main (arguments : List String) : IO UInt32 := do
  let outcome : ReleaseArtifacts.CommandLine.Outcome ←
    ReleaseArtifacts.CommandLine.run arguments
  IO.print outcome.output
  IO.eprint outcome.errors
  return outcome.code.toUInt32
