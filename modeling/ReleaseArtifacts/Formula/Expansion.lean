namespace ReleaseArtifacts.Formula

/-!
# Shell parameter expansions

The launcher scripts inside a formula refer to environment variables.

* `expansion name` — the value of a variable.
* `expansionOr name fallback` — the value of a variable, or the fallback where it is unset or empty.
-/

/-- The value of a shell variable. -/
def expansion (name : String) : String :=
  "$\x7b" ++ name ++ "\x7d"

/-- The value of a shell variable, or `fallback` where it is unset or empty. -/
def expansionOr (name fallback : String) : String :=
  "$\x7b" ++ name ++ ":-" ++ fallback ++ "\x7d"

end ReleaseArtifacts.Formula
