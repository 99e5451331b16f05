import ReleaseArtifacts.FileSystem.Basic

namespace ReleaseArtifacts.FileSystem

/-!
# Writing files

A file is written together with the folders it lies in.  Where something goes wrong on the way, the
folders made so far stay.

* `makeFolders` — creates the folders that are missing.
* `write` — creates the folders of a file and stores it.
-/

/-- Creates a folder, unless it is there. -/
def ensureFolder (s : FileSystem) (path : String) : FileSystem × Except PathFault Unit :=
  match s.makeFolder path with
  | .ok s => (s, .ok ())
  | .error fault => if s.hasFolder path then (s, .ok ()) else (s, .error fault)

/-- Creates a folder, unless it is there, and before it those it lies in if they are missing.  The
    innermost folder comes first. -/
def makeFolders (s : FileSystem) : (paths : List String) → FileSystem × Except PathFault Unit
  | [] => (s, .ok ())
  | path :: outer =>
    match s.makeFolder path with
    | .ok s => (s, .ok ())
    | .error .missing =>
      match s.makeFolders outer with
      | (s, .ok ()) => s.ensureFolder path
      | (s, .error fault) => (s, .error fault)
    | .error fault => if s.hasFolder path then (s, .ok ()) else (s, .error fault)

/-- Creates the folders of a file and stores it. -/
def write (s : FileSystem) (path : String) (contents : Bytes) :
    FileSystem × Except PathFault Unit :=
  match s.makeFolders (Path.folders path) with
  | (s, .error fault) => (s, .error fault)
  | (s, .ok ()) =>
    match s.store path contents with
    | .ok s => (s, .ok ())
    | .error fault => (s, .error fault)

end ReleaseArtifacts.FileSystem
