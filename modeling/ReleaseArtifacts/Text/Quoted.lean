import ReleaseArtifacts.Text.Printable

namespace ReleaseArtifacts.Text

/-!
# Quoted text

Messages and printed lists show a string between double quotes, on one line and without anything
that a terminal would not show.

* `escaped` — one character as it stands between the quotes.
* `quoted` — a whole string with its quotes.
-/

/-- A character by its code point in lower-case hexadecimal digits. -/
def codeEscape (c : Char) : List Char :=
  ['\\', 'u', '{'] ++ Nat.toDigits 16 c.toNat ++ ['}']

/-- One character inside quotes: the quote and the backslash take a backslash, the usual controls
    have a letter, and what cannot be shown is written by its code point. -/
def escaped (c : Char) : List Char :=
  match c with
  | '"' => ['\\', '"']
  | '\\' => ['\\', '\\']
  | '\n' => ['\\', 'n']
  | '\r' => ['\\', 'r']
  | '\t' => ['\\', 't']
  | '\x00' => ['\\', '0']
  | c => if isPrintable c && !isCombining c then [c] else codeEscape c

/-- A string between double quotes. -/
def quoted (s : String) : String :=
  String.ofList (['"'] ++ s.toList.flatMap escaped ++ ['"'])

end ReleaseArtifacts.Text
