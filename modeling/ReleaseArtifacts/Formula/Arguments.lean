namespace ReleaseArtifacts.Formula

/-!
# Argument lists

The arguments of a `system` line in a formula: each between double quotes as it is, with a comma and
a space between two of them.
-/

/-- The arguments of a call, quoted and joined. -/
def argumentList (arguments : List String) : String :=
  ", ".intercalate (arguments.map fun a => "\"" ++ a ++ "\"")

end ReleaseArtifacts.Formula
