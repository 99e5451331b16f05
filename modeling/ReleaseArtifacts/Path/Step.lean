import ReleaseArtifacts.Path.Join

namespace ReleaseArtifacts.Path

/-!
# Steps of a path

* `pieces` — the parts of a path between separators.
* `Step`, `steps` — what the parts of a path mean, one after the other.
* `folders` — the paths of the folders that a path lies in.
-/

/-- The parts of a path between separators. -/
def pieces : List Char → List (List Char)
  | [] => [[]]
  | c :: rest =>
    if c = '/' then [] :: pieces rest
    else
      match pieces rest with
      | [] => [[c]]
      | piece :: others => (c :: piece) :: others

/-! ### Steps -/

/-- A part of a path. -/
inductive Step
  /-- stays where it is -/
  | stay
  /-- goes to the folder outside -/
  | up
  /-- goes to the entry with a name -/
  | down (name : String)
  /-- ends the path: what it leads to has to be a folder -/
  | slash
deriving DecidableEq, Repr

/-- What a nonempty part means. -/
def Step.ofPiece (piece : List Char) : Step :=
  if piece = ['.'] then stay
  else if piece = ['.', '.'] then up
  else down (String.ofList piece)

/-- What parts mean.  An empty one means nothing unless it is the last one. -/
def stepsOf : (parts : List (List Char)) → List Step
  | [] => []
  | [piece] => if piece = [] then [.slash] else [.ofPiece piece]
  | piece :: next :: others =>
    if piece = [] then stepsOf (next :: others) else .ofPiece piece :: stepsOf (next :: others)

/-- The steps of a path. -/
def steps (path : String) : List Step := stepsOf (pieces path.toList)

/-! ### Folders outside -/

/-- Parts that name nothing. -/
def isBlank (piece : List Char) : Bool := piece = [] ∨ piece = ['.']

/-- The text of parts that are given from the last one to the first. -/
def textOf (reversed : List (List Char)) : String :=
  String.ofList (List.intercalate ['/'] reversed.reverse)

/-- The path itself, and those it lies in, without what names nothing at their ends; parts are
    given from the last one to the first. -/
def outward : (reversed : List (List Char)) → List (List (List Char))
  | [] => []
  | piece :: outer =>
    if isBlank piece then outward outer else (piece :: outer) :: outward outer

/-- The paths of the folders that a path lies in, the innermost first, as far as they have names. -/
def folders (path : String) : List String :=
  ((outward (pieces path.toList).reverse).drop 1).map textOf

end ReleaseArtifacts.Path
