namespace ReleaseArtifacts.Text

/-!
# Lines

* `unlines` — lines as a text, each with a line feed after it.
* `lines` — the lines of a text: what stands between its line feeds.
* `Lacks` — a text without a certain character: a line is a text without line feeds.
* `lines_unlines` — lines without line feeds are found again; the text ends in an empty line, since
  its last line feed has nothing after it.
-/

/-- Lines as a text: each of them ends in a line feed. -/
def unlines (ls : List String) : String := String.join (ls.map (· ++ "\n"))

/-- The lines of a text, split at its line feeds. -/
def lines (s : String) : List String := (s.split '\n').toList.map String.Slice.copy

/-- A text without a certain character. -/
def Lacks (c : Char) (s : String) : Prop := c ∉ s.toList

instance (c : Char) (s : String) : Decidable (Lacks c s) := inferInstanceAs (Decidable (¬ _))

/-! ### Joining -/

@[simp] theorem unlines_nil : unlines [] = "" := rfl

@[simp] theorem unlines_cons (l : String) (ls : List String) :
    unlines (l :: ls) = l ++ ("\n" ++ unlines ls) := by
  rw [unlines, List.map_cons, String.join_cons, String.append_assoc, ← unlines]

@[simp] theorem unlines_append (a b : List String) : unlines (a ++ b) = unlines a ++ unlines b := by
  rw [unlines, List.map_append, String.join_append, ← unlines, ← unlines]

/-- Blocks of lines one after the other. -/
theorem unlines_flatMap {α : Type} (f : α → List String) (xs : List α) :
    unlines (xs.flatMap f) = String.join (xs.map fun x => unlines (f x)) := by
  induction xs with
  | nil => rfl
  | cons x xs ih => rw [List.flatMap_cons, unlines_append, ih, List.map_cons, String.join_cons]

/-! ### Splitting -/

@[simp] theorem lacks_append {c : Char} {a b : String} :
    Lacks c (a ++ b) ↔ Lacks c a ∧ Lacks c b := by
  simp only [Lacks, String.toList_append, List.mem_append, not_or]

theorem lines_eq_splitOn (s : String) : lines s = (s.toList.splitOn '\n').map String.ofList :=
  String.toList_split_char

/-- The first line ends at the first line feed. -/
theorem lines_append_newline {l : String} (hl : Lacks '\n' l) (s : String) :
    lines (l ++ ("\n" ++ s)) = l :: lines s := by
  have hchars : (l ++ ("\n" ++ s)).toList = l.toList ++ '\n' :: s.toList := by
    rw [String.toList_append, String.toList_append]
    rfl
  rw [lines_eq_splitOn, hchars, List.splitOn_append_cons_self_of_not_mem hl, List.map_cons,
    String.ofList_toList, ← lines_eq_splitOn]

/-- **Lines are found again.**  Of lines without line feeds, the text has exactly these lines and an
    empty one at its end. -/
theorem lines_unlines {ls : List String} (h : ∀ l ∈ ls, Lacks '\n' l) :
    lines (unlines ls) = ls ++ [""] := by
  induction ls with
  | nil => rw [unlines_nil, lines_eq_splitOn]; rfl
  | cons l ls ih =>
    rw [unlines_cons, lines_append_newline (h l (by simp)), ih (fun l' hl' => h l' (by simp [hl'])),
      List.cons_append]

end ReleaseArtifacts.Text
