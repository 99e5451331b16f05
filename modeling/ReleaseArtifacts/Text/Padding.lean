namespace ReleaseArtifacts.Text

/-!
# Padding

Columns of a listing.  Two measures of a text meet here: a column is as wide as the longest entry in
**bytes**, and an entry is filled up with spaces counted in **characters**.

* `padRight` — a text filled up to a number of characters.
* `byteWidth` — the length of a text in UTF-8.
-/

/-- A text with spaces after it, up to `width` characters; longer texts stay as they are. -/
def padRight (s : String) (width : Nat) : String :=
  s ++ String.ofList (List.replicate (width - s.length) ' ')

/-- The length of a text in bytes of UTF-8. -/
def byteWidth (s : String) : Nat := s.utf8ByteSize

end ReleaseArtifacts.Text
