namespace ReleaseArtifacts.Template

/-!
# Line numbers

* `lineAfter` — the line of the character after another one.
-/

/-- Lines are counted up to this number, which all lines after it have too. -/
def lastLine : Nat := 65535

/-- The line after a character. -/
def lineAfter (line : Nat) (c : Char) : Nat :=
  if c = '\n' then min (line + 1) lastLine else line

end ReleaseArtifacts.Template
