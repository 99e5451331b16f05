import Mathlib.Data.String.Basic
import ReleaseArtifacts.Text.Padding

namespace ReleaseArtifacts.Text

/-!
# The two measures of a text

A text has at most as many characters as bytes, and as many only if it is ASCII.  This relates the
width of a column, which is counted in bytes, to the spaces in it, which are counted in characters.

* `length_le_byteWidth` — no text has more characters than bytes.
* `length_eq_byteWidth_iff` — the texts for which the two measures agree.
* `length_padRight` — a text fills its column.
-/

/-- All characters are ASCII. -/
def IsAscii (s : String) : Prop := ∀ c ∈ s.toList, c.toNat < 128

/-- So many spaces. -/
def spaces (n : Nat) : String := String.ofList (List.replicate n ' ')

theorem length_spaces (n : Nat) : (spaces n).length = n := by
  rw [spaces, String.length_ofList, List.length_replicate]

/-! ### Bytes and characters -/

theorem byteWidth_eq (s : String) : byteWidth s = String.utf8Len s.toList := by
  rw [byteWidth, ← String.utf8ByteSize_ofList, String.ofList_toList]

/-- Every character takes a byte, and only the ASCII ones take no more. -/
theorem utf8Size_eq_one_iff (c : Char) : c.utf8Size = 1 ↔ c.toNat < 128 := by
  rw [Char.utf8Size_eq_one_iff, UInt32.le_iff_toNat_le]
  show c.toNat ≤ 127 ↔ c.toNat < 128
  omega

theorem length_le_utf8Len (cs : List Char) : cs.length ≤ String.utf8Len cs := by
  induction cs with
  | nil => exact Nat.le_refl 0
  | cons c cs ih =>
    have hpos := c.utf8Size_pos
    rw [List.length_cons, String.utf8Len_cons]
    omega

theorem length_eq_utf8Len_iff (cs : List Char) :
    cs.length = String.utf8Len cs ↔ ∀ c ∈ cs, c.toNat < 128 := by
  induction cs with
  | nil => simp
  | cons c cs ih =>
    have hpos := c.utf8Size_pos
    have hle := length_le_utf8Len cs
    -- Neither the first character nor the others can make up for bytes of the other ones.
    have hsplit : cs.length + 1 = String.utf8Len cs + c.utf8Size ↔
        c.utf8Size = 1 ∧ cs.length = String.utf8Len cs := by omega
    rw [List.length_cons, String.utf8Len_cons, hsplit, ih, utf8Size_eq_one_iff,
      List.forall_mem_cons]

/-- **No text has more characters than bytes.** -/
theorem length_le_byteWidth (s : String) : s.length ≤ byteWidth s := by
  rw [byteWidth_eq, ← String.length_toList]
  exact length_le_utf8Len s.toList

/-- **A text has as many characters as bytes exactly if it is ASCII.** -/
theorem length_eq_byteWidth_iff (s : String) : s.length = byteWidth s ↔ IsAscii s := by
  rw [byteWidth_eq, ← String.length_toList]
  exact length_eq_utf8Len_iff s.toList

/-! ### Columns -/

/-- A text that is not too long fills its column. -/
theorem length_padRight {s : String} {width : Nat} (h : s.length ≤ width) :
    (padRight s width).length = width := by
  show (s ++ spaces (width - s.length)).length = width
  rw [String.length_append, length_spaces]
  omega

end ReleaseArtifacts.Text
