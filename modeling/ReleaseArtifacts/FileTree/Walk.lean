import ReleaseArtifacts.FileTree.Basic
import ReleaseArtifacts.Path.Step

namespace ReleaseArtifacts

/-!
# Walking through file trees

A path is walked from folder to folder; a link on the way is replaced by the path it holds.

* `PathFault` — why a path leads nowhere, or to something else than was wanted.
* `FileTree.walk` — the place that a path leads to.
-/

open ReleaseArtifacts.Path (Step)

/-- What is wrong with a path. -/
inductive PathFault
  /-- the path has a character that ends it -/
  | unexpectedNul
  | missing
  | notFolder
  | isFolder
  | alreadyExists
  | nameTooLong
  | tooManyLinks
deriving DecidableEq, Repr

/-- The greatest length of a name, in bytes. -/
def nameLimit : Nat := 255

/-- How many links a path may lead through. -/
def linkLimit : Nat := 40

/-- Where a walk along a path begins, if it is not absolute at `place`. -/
def startOf (path : String) (place : Place) : Place := if Path.isAbsolute path then [] else place

namespace FileTree

/-- The place that steps lead to from `place`, through no more than `links` links.  If a file is to
    be created, what the last step leads to may be missing, but it cannot be a folder. -/
def walk (t : FileTree) (creating : Bool) (links : Nat) (place : Place) :
    (steps : List Step) → Except PathFault Place
  | [] => .ok place
  | step :: rest =>
    if t.isFolder place then
      match step with
      | .stay => walk t creating links place rest
      | .slash => walk t creating links place rest
      | .up => walk t creating links place.tail rest
      | .down name =>
        if creating ∧ rest = [.slash] then .error .isFolder
        else if nameLimit < name.utf8ByteSize then .error .nameTooLong
        else
          match t.get? (name :: place) with
          | none => if creating ∧ rest = [] then .ok (name :: place) else .error .missing
          | some (.link target) =>
            if links = 0 then .error .tooManyLinks
            else walk t creating (links - 1) (startOf target place) (Path.steps target ++ rest)
          | some _ => walk t creating links (name :: place) rest
    else .error .notFolder
termination_by steps => (links, steps.length)

end FileTree

end ReleaseArtifacts
