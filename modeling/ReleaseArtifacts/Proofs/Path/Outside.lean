import ReleaseArtifacts.Proofs.Path.Below

namespace ReleaseArtifacts.Path

/-!
# Folders outside

The paths of the folders that a path lies in, read back into the path.

* `LiesIn` — a path goes on from the path of a folder.
* `liesIn_of_mem_folders` — it does from each of the folders that are made for it.
-/

variable {path folder : String}

/-! ### Putting pieces together -/

/-- There are no separators inside pieces. -/
theorem notMem_of_mem_pieces {piece : List Char} (l : List Char) (h : piece ∈ pieces l) :
    '/' ∉ piece := by
  induction l generalizing piece with
  | nil =>
    obtain rfl := List.mem_singleton.mp h
    simp
  | cons c rest ih =>
    rw [pieces] at h
    split at h
    · rcases List.mem_cons.mp h with rfl | hrest
      · simp
      · exact ih hrest
    · rename_i hc
      cases hrest : pieces rest with
      | nil => exact absurd hrest (pieces_ne_nil rest)
      | cons first others =>
        rw [hrest] at h ih
        rcases List.mem_cons.mp h with rfl | hother
        · simpa [Ne.symm hc] using ih List.mem_cons_self
        · exact ih (List.mem_cons_of_mem _ hother)

theorem intercalate_append {α : Type} {front back : List (List α)} (separator : List α)
    (hfront : front ≠ []) (hback : back ≠ []) :
    separator.intercalate (front ++ back) =
      separator.intercalate front ++ separator ++ separator.intercalate back := by
  induction front with
  | nil => exact absurd rfl hfront
  | cons piece front ih =>
    rw [List.cons_append]
    by_cases hlast : front = []
    · rw [hlast, List.nil_append, List.intercalate_cons_of_ne_nil hback,
        List.intercalate_singleton]
    · rw [List.intercalate_cons_of_ne_nil (by simp [hlast]),
        List.intercalate_cons_of_ne_nil hlast, ih hlast]
      simp only [List.append_assoc]

/-- Parts that are put together are the pieces of what comes out. -/
theorem pieces_textOf {reversed : List (List Char)} (hslash : ∀ piece ∈ reversed, '/' ∉ piece)
    (hne : reversed ≠ []) : pieces (textOf reversed).toList = reversed.reverse := by
  rw [textOf, String.toList_ofList, pieces_eq_splitOn]
  exact List.splitOn_intercalate '/' (fun piece hpiece => hslash piece (List.mem_reverse.mp hpiece))
    (by simpa using hne)

/-! ### Going outward -/

/-- Everything outside ends in a name, with what comes after it left away. -/
theorem exists_append_of_mem_outward {reversed shorter : List (List Char)}
    (h : shorter ∈ outward reversed) :
    ∃ skipped piece outer, reversed = skipped ++ shorter ∧ shorter = piece :: outer ∧
      isBlank piece = false := by
  induction reversed with
  | nil => exact nomatch h
  | cons piece outer ih =>
    rw [outward] at h
    split at h
    · obtain ⟨skipped, inner, rest, rfl, hshorter⟩ := ih h
      exact ⟨piece :: skipped, inner, rest, rfl, hshorter⟩
    · rename_i hblank
      rcases List.mem_cons.mp h with rfl | houter
      · exact ⟨[], piece, outer, rfl, rfl, Bool.eq_false_iff.mpr hblank⟩
      · obtain ⟨skipped, inner, rest, rfl, hshorter⟩ := ih houter
        exact ⟨piece :: skipped, inner, rest, rfl, hshorter⟩

/-- What is further outside than a name leaves that name away. -/
theorem exists_append_of_mem_drop_outward {reversed shorter : List (List Char)}
    (h : shorter ∈ (outward reversed).drop 1) :
    ∃ skipped piece outer, skipped ≠ [] ∧ reversed = skipped ++ shorter ∧
      shorter = piece :: outer ∧ isBlank piece = false := by
  induction reversed with
  | nil => exact nomatch h
  | cons piece outer ih =>
    rw [outward] at h
    split at h
    · obtain ⟨skipped, inner, rest, -, rfl, hshorter⟩ := ih h
      exact ⟨piece :: skipped, inner, rest, by simp, rfl, hshorter⟩
    · obtain ⟨skipped, inner, rest, rfl, hshorter⟩ := exists_append_of_mem_outward h
      exact ⟨piece :: skipped, inner, rest, by simp, rfl, hshorter⟩

/-- A path goes on from the path of a folder. -/
structure LiesIn (path folder : String) : Prop where
  named : EndsInName folder
  text : ∃ inner, path = folder ++ "/" ++ inner
  steps : ∃ inner, inner ≠ [] ∧ steps path = steps folder ++ inner

/-- **A path lies in its folders**: its text goes on from theirs, and so do its steps. -/
theorem liesIn_of_mem_folders (h : folder ∈ folders path) : LiesIn path folder := by
  obtain ⟨shorter, hshorter, rfl⟩ := List.mem_map.mp h
  obtain ⟨skipped, piece, outer, hskipped, hall, rfl, hblank⟩ :=
    exists_append_of_mem_drop_outward hshorter
  have hpieces : pieces path.toList = (outer.reverse ++ [piece]) ++ skipped.reverse := by
    rw [← List.reverse_reverse (pieces path.toList), hall, List.reverse_append,
      List.reverse_cons]
  have hfolder : (textOf (piece :: outer)).toList =
      List.intercalate ['/'] (outer.reverse ++ [piece]) := by
    rw [textOf, String.toList_ofList, List.reverse_cons]
  have hfront : pieces (textOf (piece :: outer)).toList = outer.reverse ++ [piece] := by
    rw [← List.reverse_cons]
    refine pieces_textOf (fun part hpart => ?_) (by simp)
    refine notMem_of_mem_pieces path.toList ?_
    rw [hpieces, ← List.reverse_cons]
    exact List.mem_append_left _ (List.mem_reverse.mpr hpart)
  -- The pieces of the path are those of the folder and what was skipped, in their order.
  have hne : piece ≠ [] := by
    rintro rfl
    exact absurd hblank (by decide)
  refine ⟨⟨_, piece, hfront, hblank⟩, ?_, stepsOf skipped.reverse, ?_, ?_⟩
  · refine ⟨String.ofList (List.intercalate ['/'] skipped.reverse), String.toList_inj.mp ?_⟩
    have htext : path.toList = List.intercalate ['/'] (pieces path.toList) := by
      rw [pieces_eq_splitOn, List.intercalate_splitOn]
    rw [htext, hpieces, intercalate_append _ (by simp) (by simpa using hskipped),
      String.toList_append, String.toList_append, hfolder, String.toList_ofList,
      String.toList_ofList]
  · exact stepsOf_ne_nil (by simpa using hskipped)
  · have hsingle : stepsOf [piece] = [Step.ofPiece piece] := by rw [stepsOf, if_neg hne]
    rw [steps, steps, hfront, hpieces, stepsOf_append _ (by simpa using hskipped),
      stepsOf_append _ (by simp), hsingle, List.filter_append, List.map_append]
    simp [hne]

end ReleaseArtifacts.Path
