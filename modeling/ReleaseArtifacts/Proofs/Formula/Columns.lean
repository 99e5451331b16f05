import ReleaseArtifacts.Proofs.Formula.Width
import ReleaseArtifacts.Proofs.Text.Padding

namespace ReleaseArtifacts.Formula

/-!
# The list of commands

In the caveats every launcher has a row: its name fills a column, and its summary stands after it.
The column is as wide as the longest name in *bytes* and three more, and it is filled up by counting
*characters*, so that names outside of ASCII are followed by more spaces than the others.

* `column`, `gap` — the column of a launcher, and the spaces in it.
* `row` — the row of a launcher.
* `gap_eq_iff` — which names are followed by three spaces only.
* `columns_align` — all summaries stand in one column.
-/

open Text (IsAscii byteWidth length_le_byteWidth spaces unlines)

variable {p : Profile} {l : Launcher}

/-- How many spaces follow the name of a launcher. -/
def gap (p : Profile) (l : Launcher) : Nat := p.columnWidth - l.name.length

/-- The column of a launcher: its name, and spaces after it. -/
def column (p : Profile) (l : Launcher) : String := l.name ++ spaces (gap p l)

/-- The row of a launcher: eight spaces, its column, and its summary in parentheses. -/
def row (p : Profile) (l : Launcher) : String :=
  "        " ++ column p l ++ "(" ++ l.summary ++ ")"

/-! ### Widths -/

/-- The column is wider than a name of one of the launchers, by three at least. -/
theorem byteWidth_add_le (hl : l ∈ p.launchers) : byteWidth l.name + 3 ≤ p.columnWidth := by
  have hall := columnWidth_le_iff.mp (Nat.le_refl (p.longestName + Profile.columnGap))
  exact Nat.add_le_add_right (hall l hl) 3

/-- The longest names are those that leave three bytes of the column. -/
theorem byteWidth_add_eq_iff (hl : l ∈ p.launchers) :
    byteWidth l.name + 3 = p.columnWidth ↔
      ∀ l' ∈ p.launchers, byteWidth l'.name ≤ byteWidth l.name := by
  have hle := byteWidth_add_le hl
  rw [← columnWidth_le_iff]
  show _ ↔ p.columnWidth ≤ byteWidth l.name + 3
  omega

/-- **Three spaces at least** follow every name. -/
theorem three_le_gap (hl : l ∈ p.launchers) : 3 ≤ gap p l := by
  have hwidth := byteWidth_add_le hl
  have hchars := length_le_byteWidth l.name
  show 3 ≤ p.columnWidth - l.name.length
  omega

/-- **Three spaces only** follow a name exactly if no other name takes more bytes and each of its
    characters takes one. -/
theorem gap_eq_iff (hl : l ∈ p.launchers) :
    gap p l = 3 ↔
      (∀ l' ∈ p.launchers, byteWidth l'.name ≤ byteWidth l.name) ∧ IsAscii l.name := by
  have hwidth := byteWidth_add_le hl
  have hchars := length_le_byteWidth l.name
  rw [← byteWidth_add_eq_iff hl, ← Text.length_eq_byteWidth_iff]
  show p.columnWidth - l.name.length = 3 ↔ _
  omega

theorem length_column (hl : l ∈ p.launchers) : (column p l).length = p.columnWidth := by
  have hwidth := byteWidth_add_le hl
  have hchars := length_le_byteWidth l.name
  -- A column is a padded name.
  show (Text.padRight l.name p.columnWidth).length = p.columnWidth
  apply Text.length_padRight
  omega

/-! ### Rows -/

theorem applyFilter_column (l : Launcher) (hwidth : p.columnWidth ≤ 65535) :
    Template.applyFilter "ljust" [.text l.name, .number p.columnWidth] =
      .ok (.text (column p l)) := by
  have hfits : p.columnWidth < 2 ^ 64 := Nat.lt_of_le_of_lt hwidth (by decide)
  rw [applyFilter_ljust (takeWidth_natCast hfits []), padded_of_le hwidth]
  rfl

/-- The summary of a launcher begins where its column ends. -/
theorem drop_row (hl : l ∈ p.launchers) :
    (row p l).toList.drop (8 + p.columnWidth) = ("(" ++ l.summary ++ ")").toList := by
  have hrow : (row p l).toList =
      ("        " ++ column p l).toList ++ ("(" ++ l.summary ++ ")").toList := by
    simp only [row, String.toList_append, List.append_assoc]
  have hfront : ("        " ++ column p l).toList.length = 8 + p.columnWidth := by
    rw [String.length_toList, String.length_append, length_column hl]
    rfl
  rw [hrow, ← hfront, List.drop_left]

/-- The list of commands stands between the other lines of the formula. -/
theorem formulaText_eq_rows (p : Profile) (r : Release) :
    formulaText p r = unlines (beforeLines p r ++ p.launchers.map (row p) ++ tailLines p) := by
  have hrows : p.launchers.map (commandLine p.columnWidth) = p.launchers.map (row p) := rfl
  unfold formulaText formulaLines bodyLines beforeLines
  rw [hrows]
  simp only [List.append_assoc]

/-- **All summaries stand in one column.**  The name of every launcher is padded to the width of the
    column, by three spaces or more, and its summary follows the column in the caveats that are
    rendered.  Some name is followed by three spaces only exactly if some name of the greatest
    length in bytes is ASCII. -/
theorem columns_align (r : Release) (hwidth : p.columnWidth ≤ 65535) :
    (∀ l ∈ p.launchers,
      Template.applyFilter "ljust" [.text l.name, .number p.columnWidth] =
        .ok (.text (column p l)) ∧
      (column p l).length = p.columnWidth ∧ 3 ≤ gap p l ∧
      (row p l).toList.drop (8 + p.columnWidth) = ("(" ++ l.summary ++ ")").toList) ∧
    rendered p r =
      .ok (unlines (beforeLines p r ++ p.launchers.map (row p) ++ tailLines p)) ∧
    ((∃ l ∈ p.launchers, gap p l = 3) ↔
      ∃ l ∈ p.launchers,
        (∀ l' ∈ p.launchers, byteWidth l'.name ≤ byteWidth l.name) ∧ IsAscii l.name) := by
  refine ⟨fun l hl => ?_, ?_, ?_⟩
  · exact ⟨applyFilter_column l hwidth, length_column hl, three_le_gap hl, drop_row hl⟩
  · rw [rendered_of_width p r hwidth, formulaText_eq_rows]
  · exact exists_congr fun l => and_congr_right fun hl => gap_eq_iff hl

/-- A package whose launchers have names of four bytes, with two, three and four characters. -/
def accented : Profile :=
  { named "box" with
    launchers := ["éé", "aéb", "abcd"].map fun name => ⟨name, "box", name, false⟩ }

theorem columns_align_accented :
    accented.columnWidth = 7 ∧
    accented.launchers.map (row accented) =
      ["        éé     (éé)", "        aéb    (aéb)", "        abcd   (abcd)"] ∧
    (∀ l ∈ accented.launchers, (column accented l).length = 7) ∧
    ∃ l ∈ accented.launchers, (∀ l' ∈ accented.launchers, byteWidth l'.name ≤ byteWidth l.name) ∧
      IsAscii l.name := by
  have halign := columns_align (p := accented) braceRelease (by decide)
  refine ⟨by decide, by decide, fun l hl => (halign.1 l hl).2.1, halign.2.2.mp ?_⟩
  exact ⟨⟨"abcd", "box", "abcd", false⟩, by decide, by decide⟩

end ReleaseArtifacts.Formula
