import ReleaseArtifacts.FileSystem.Storage

namespace ReleaseArtifacts

/-!
# Repositories

* `Repository` — a folder that relative paths start from.
* `Repository.read`, `Repository.write` — reads and writes a file by its path in a repository.
-/

/-- A folder that relative paths start from. -/
structure Repository where
  root : String
deriving DecidableEq, Repr

namespace Repository

variable {m : Type → Type} [Monad m] [Storage m]

/-- The path of a file; an absolute path stays as it is. -/
def resolve (r : Repository) (path : String) : String := Path.join r.root path

/-- Whether there is a file. -/
def hasFile (r : Repository) (path : String) : m Bool := Storage.hasFile (r.resolve path)

/-- The contents of a file. -/
def read (r : Repository) (path : String) : ExceptT Fault m Bytes := .mk do
  return (← Storage.contents (r.resolve path)).mapError .io

/-- Writes a file, with the folders it lies in. -/
def write (r : Repository) (path : String) (contents : Bytes) : ExceptT Fault m Unit := .mk do
  return (← Storage.write (r.resolve path) contents).mapError (.writeFailed (r.resolve path))

/-- Writes a text. -/
def writeText (r : Repository) (path text : String) : ExceptT Fault m Unit :=
  r.write path text.toUTF8.toList

/-- The repository in the current folder. -/
def current : ExceptT Fault m Repository := .mk do
  return ((← Storage.currentPath).map Repository.mk).mapError .io

end Repository

end ReleaseArtifacts
