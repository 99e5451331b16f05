import ReleaseArtifacts.Fault.SystemCode

namespace ReleaseArtifacts

/-!
# Faults

What can go wrong while release artifacts are made.

* `IoFault` — a fault of the file system, or one that stands for it.
* `Fault` — a fault of the library, with its text (`Fault.message`), its class (`Fault.kind`) and
  the fault it comes from (`Fault.source`).
* `Breakdown` — how a task ends that does not succeed.
-/

/-- A fault of input or output. -/
inductive IoFault
  /-- the operating system reports an error number -/
  | system (code : Nat)
  /-- nothing is known but the class -/
  | plain (kind : FaultKind)
  /-- a class with a text of its own -/
  | custom (kind : FaultKind) (message : String)
deriving DecidableEq, Repr

namespace IoFault

/-- The class of a fault. -/
def kind : IoFault → FaultKind
  | system code => SystemCode.kind code
  | plain kind => kind
  | custom kind _ => kind

/-- The text of a fault. -/
def message : IoFault → String
  | system code => SystemCode.text code
  | plain kind => kind.description
  | custom _ message => message

end IoFault

/-- A fault of the library. -/
inductive Fault
  /-- input or output failed -/
  | io (cause : IoFault)
  /-- an output file could not be written -/
  | writeFailed (path : String) (cause : IoFault)
  /-- the package profile is not usable -/
  | invalidProfile (reason : String)
  /-- a template could not be read or rendered -/
  | template (name reason : String)
  /-- there is no master icon -/
  | iconSourceMissing (path : String)
  /-- the master icon could not be decoded, or an icon could not be encoded -/
  | image (path details : String)
deriving DecidableEq, Repr

namespace Fault

/-- The text of a fault. -/
def message : Fault → String
  | io cause => cause.message
  | writeFailed path cause => "Failed to write " ++ path ++ ": " ++ cause.message
  | invalidProfile reason => "Invalid package profile: " ++ reason
  | template name reason => "Template error in '" ++ name ++ "': " ++ reason
  | iconSourceMissing path => "Missing source icon: " ++ path
  | image path details => "Image error for " ++ path ++ ": " ++ details

/-- The class of a fault: faults of input and output keep theirs, a missing icon is not found, and
    everything else is bad data. -/
def kind : Fault → FaultKind
  | io cause => cause.kind
  | writeFailed _ cause => cause.kind
  | invalidProfile _ => .invalidData
  | template _ _ => .invalidData
  | iconSourceMissing _ => .notFound
  | image _ _ => .invalidData

/-- The text of the fault that a fault comes from; a fault of input and output stands for itself. -/
def source : Fault → Option String
  | writeFailed _ cause => some cause.message
  | _ => none

end Fault

/-- How a task ends that does not succeed. -/
inductive Breakdown
  /-- a fault is reported -/
  | fault (cause : Fault)
  /-- the whole run is given up -/
  | aborted
deriving DecidableEq, Repr

end ReleaseArtifacts
