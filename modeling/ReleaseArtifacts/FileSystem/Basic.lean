import ReleaseArtifacts.FileTree.Walk

namespace ReleaseArtifacts

/-!
# File systems

* `FileSystem` — a file tree, and the folder in it that other paths start from.
* `FileSystem.locate` — the place that a path leads to.
* `FileSystem.contents` — the contents of a file.
* `FileSystem.store` — replaces a file, or creates it.  Writing the contents of a file that was
  opened is assumed to succeed.
* `FileSystem.makeFolder`, `FileSystem.makeLink` — create what was not there.
-/

/-- A file tree and its current folder, unless that was taken away. -/
structure FileSystem where
  tree : FileTree
  current : Option Place

/-- A path has fewer bytes than this. -/
def pathLimit : Nat := 4096

/-- The path of a place. -/
def Place.path (place : Place) : String :=
  if place = [] then "/" else String.join (place.reverse.map ("/" ++ ·))

namespace FileSystem

/-! ### Finding places -/

/-- Where a walk along a path begins.  A path must not be empty, nor too long. -/
def start (s : FileSystem) (path : String) : Except PathFault Place :=
  if '\x00' ∈ path.toList then .error .unexpectedNul
  else if path = "" then .error .missing
  else if pathLimit ≤ path.utf8ByteSize then .error .nameTooLong
  else if Path.isAbsolute path then .ok []
  else
    match s.current with
    | some place => .ok place
    | none => .error .missing

/-- The place that a path leads to. -/
def locate (s : FileSystem) (creating : Bool) (path : String) : Except PathFault Place := do
  let place ← s.start path
  s.tree.walk creating linkLimit place (Path.steps path)

/-- The name and the folder of something that is not there yet.  A slash may come after its
    name. -/
def vacancy (s : FileSystem) (path : String) : Except PathFault (String × Place) := do
  let place ← s.start path
  let steps := Path.steps path
  let named := if steps.getLast? = some .slash then steps.dropLast else steps
  let folder ← s.tree.walk false linkLimit place named.dropLast
  if !s.tree.isFolder folder then .error .notFolder
  match named.getLast? with
  | some (.down name) =>
    if nameLimit < name.utf8ByteSize then .error .nameTooLong
    else if (s.tree.get? (name :: folder)).isSome then .error .alreadyExists
    else return (name, folder)
  | _ => .error .alreadyExists

/-! ### Reading -/

/-- Whether a path leads to a file. -/
def hasFile (s : FileSystem) (path : String) : Bool :=
  match s.locate false path with
  | .error _ => false
  | .ok place =>
    match s.tree.get? place with
    | some (.file _) => true
    | _ => false

/-- Whether a path leads to a folder. -/
def hasFolder (s : FileSystem) (path : String) : Bool :=
  match s.locate false path with
  | .error _ => false
  | .ok place => s.tree.isFolder place

/-- The contents of the file that a path leads to. -/
def contents (s : FileSystem) (path : String) : Except PathFault Bytes := do
  let place ← s.locate false path
  match s.tree.get? place with
  | some (.file contents) => return contents
  | some .folder => .error .isFolder
  | _ => .error .missing

/-- The path of the current folder. -/
def currentPath (s : FileSystem) : Except PathFault String :=
  match s.current with
  | some place => .ok place.path
  | none => .error .missing

/-! ### Changing the tree -/

/-- Replaces the contents of the file that a path leads to, or creates the file.  Only finding the
    file can fail: once it is open all its contents are written.  A full disk, a quota or a device
    that breaks down in between are not part of this model. -/
def store (s : FileSystem) (path : String) (contents : Bytes) : Except PathFault FileSystem := do
  let place ← s.locate true path
  match place, s.tree.isFolder place with
  | name :: folder, false => return { s with tree := s.tree.put name folder (.file contents) }
  | _, _ => .error .isFolder

/-- Creates a folder. -/
def makeFolder (s : FileSystem) (path : String) : Except PathFault FileSystem := do
  let (name, folder) ← s.vacancy path
  return { s with tree := s.tree.put name folder .folder }

/-- Creates a link to a path. -/
def makeLink (s : FileSystem) (path target : String) : Except PathFault FileSystem := do
  if target = "" then .error .missing
  let (name, folder) ← s.vacancy path
  return { s with tree := s.tree.put name folder (.link target) }

/-- Takes away what a path names, with everything in it.  A link is taken away itself. -/
def remove (s : FileSystem) (path : String) : Except PathFault FileSystem := do
  let place ← s.start path
  let steps := Path.steps path
  let folder ← s.tree.walk false linkLimit place steps.dropLast
  match steps.getLast? with
  | some (.down name) =>
    if (s.tree.get? (name :: folder)).isNone then .error .missing
    else
      let gone := name :: folder
      return { tree := s.tree.remove gone, current := s.current.filter fun p => !gone.isSuffixOf p }
  | _ => .error .isFolder

/-- Makes the folder that a path leads to the current one. -/
def enter (s : FileSystem) (path : String) : Except PathFault FileSystem := do
  let place ← s.locate false path
  if s.tree.isFolder place then return { s with current := some place } else .error .notFolder

end FileSystem

end ReleaseArtifacts
