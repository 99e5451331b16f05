namespace ReleaseArtifacts.Path

/-!
# Joining paths

A path is a text.  Joining is done on the text alone: nothing is resolved and nothing normalised.

* `join` — a path below another one; an absolute path stands for itself.
-/

/-- Whether a path starts at the root directory. -/
def isAbsolute (path : String) : Bool := path.toList.head? = some '/'

/-- A path below `base`, with a separator between the two where one is missing. -/
def join (base path : String) : String :=
  if isAbsolute path then path
  else if base.toList.getLast?.all (· = '/') then base ++ path
  else base ++ "/" ++ path

end ReleaseArtifacts.Path
