namespace ReleaseArtifacts

/-!
# Releases

* `Release` — a published version: its number, and the archive of its source.
* `applicationName` — the application that releases are made of.
-/

/-- A published version. -/
structure Release where
  version : String
  url : String
  sha256 : String
deriving DecidableEq, Repr

/-- The application that releases are made of; its icons carry this name. -/
def applicationName : String := "butterfly-bot"

end ReleaseArtifacts
