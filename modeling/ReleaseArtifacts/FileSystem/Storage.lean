import ReleaseArtifacts.Fault.Basic
import ReleaseArtifacts.FileSystem.Write

namespace ReleaseArtifacts

/-!
# Storage

What tasks need of a file system.  They run on any that offers it: the machine's, or a
`FileSystem`, which is a value that can be looked at before and after.

* `Storage` — the current folder, and reading and writing files.
* `PathFault.toIoFault` — the fault that is reported for what is wrong with a path.
-/

/-- The fault that is reported. -/
def PathFault.toIoFault : PathFault → IoFault
  | unexpectedNul => .custom .invalidInput "file name contained an unexpected NUL byte"
  | missing => .system 2
  | alreadyExists => .system 17
  | notFolder => .system 20
  | isFolder => .system 21
  | nameTooLong => .system 36
  | tooManyLinks => .system 40

/-- What tasks need of a file system. -/
class Storage (m : Type → Type) where
  /-- the path of the current folder -/
  currentPath : m (Except IoFault String)
  /-- whether a path leads to a file -/
  hasFile (path : String) : m Bool
  /-- the contents of the file that a path leads to -/
  contents (path : String) : m (Except IoFault Bytes)
  /-- writes a file, with the folders it lies in -/
  write (path : String) (contents : Bytes) : m (Except IoFault Unit)

/-- A file system offers it. -/
instance : Storage (StateM FileSystem) where
  currentPath := fun s => (s.currentPath.mapError PathFault.toIoFault, s)
  hasFile path := fun s => (s.hasFile path, s)
  contents path := fun s => ((s.contents path).mapError PathFault.toIoFault, s)
  write path contents := fun s =>
    let result := s.write path contents
    (result.2.mapError PathFault.toIoFault, result.1)

end ReleaseArtifacts
