import ReleaseArtifacts.Proofs.Path.Outside

namespace ReleaseArtifacts.Path

/-!
# The names in a path

Where an absolute path leads in a tree without links can be told from its text, if there are no dots
among its parts.

* `names` — what stands between the slashes of a path, the innermost first.
* `names_join` — the names in a joined path.
* `steps_textOf` — a path without dots goes down from name to name.
-/

variable {path base : String} {piece : List Char} {outer parts : List (List Char)}

/-- The names among parts. -/
def namesIn (parts : List (List Char)) : List String :=
  (parts.filter (· ≠ [])).map String.ofList

/-- What stands between the slashes of a path, the innermost first. -/
def names (path : String) : List String := namesIn (pieces path.toList).reverse

/-! ### Among parts -/

theorem namesIn_append (parts rest : List (List Char)) :
    namesIn (parts ++ rest) = namesIn parts ++ namesIn rest := by
  rw [namesIn, List.filter_append, List.map_append]
  rfl

theorem namesIn_cons (hne : piece ≠ []) (outer : List (List Char)) :
    namesIn (piece :: outer) = String.ofList piece :: namesIn outer := by
  rw [namesIn, List.filter_cons_of_pos (by simpa using hne)]
  rfl

theorem ofList_mem_namesIn (hpiece : piece ∈ parts) (hne : piece ≠ []) :
    String.ofList piece ∈ namesIn parts :=
  List.mem_map_of_mem (List.mem_filter.mpr ⟨hpiece, by simpa using hne⟩)

/-- There are no slashes in parts that are names. -/
theorem notMem_of_names (h : ∀ name ∈ namesIn parts, IsName name) (hpiece : piece ∈ parts) :
    '/' ∉ piece := by
  by_cases hne : piece = []
  · simp [hne]
  · simpa using (h _ (ofList_mem_namesIn hpiece hne)).lacksSlash

/-- Parts that are names are steps down. -/
theorem map_ofPiece (h : ∀ name ∈ namesIn parts, IsName name) :
    (parts.filter (· ≠ [])).map Step.ofPiece = (namesIn parts).map .down := by
  rw [namesIn, List.map_map]
  refine List.map_congr_left fun piece hpiece => ?_
  have hname := (h _ (List.mem_map_of_mem hpiece)).ofPiece_eq
  rwa [String.toList_ofList] at hname

/-- **Going down.**  The steps of a path without dots are its names, the outermost first. -/
theorem steps_textOf (h : ∀ name ∈ namesIn (piece :: outer), IsName name) (hne : piece ≠ []) :
    steps (textOf (piece :: outer)) = (namesIn (piece :: outer)).reverse.map .down := by
  have hlast : stepsOf [piece] = [Step.ofPiece piece] := by rw [stepsOf, if_neg hne]
  have hpieces := pieces_textOf (fun part hpart => notMem_of_names h hpart) (by simp)
  rw [steps, hpieces, List.reverse_cons, stepsOf_append _ (by simp), hlast, List.map_reverse,
    ← map_ofPiece h, List.filter_cons_of_pos (by simpa using hne), List.map_cons, List.reverse_cons,
    List.filter_reverse, List.map_reverse]

/-! ### Joining -/

/-- The names on both sides of a slash. -/
theorem names_append_slash (front rest : String) :
    names (front ++ "/" ++ rest) = names rest ++ names front := by
  rw [names, pieces_append_slash, List.reverse_append, namesIn_append]
  rfl

example : names "/docs//guide.md" = ["guide.md", "docs"] := by decide

/-- A slash at the end is not followed by a name. -/
theorem names_slash (front : String) : names (front ++ "/") = names front := by
  have happend := names_append_slash front ""
  rwa [String.append_empty] at happend

/-- The names in a joined path are those of both. -/
theorem names_join (base : String) (h : isAbsolute path = false) :
    names (join base path) = names path ++ names base := by
  have hlead : names (lead base) = names base := by
    rw [lead]
    split
    · rfl
    · exact names_slash base
  rw [join_eq base h, ← hlead]
  rcases lead_eq base with hempty | ⟨front, hfront⟩
  · rw [hempty, String.empty_append]
    exact (List.append_nil _).symm
  · rw [hfront, names_append_slash, names_slash]

/-- What is below an absolute path is absolute. -/
theorem isAbsolute_join (h : isAbsolute base = true) (path : String) :
    isAbsolute (join base path) = true := by
  by_cases habsolute : isAbsolute path = true
  · rwa [join, if_pos habsolute]
  · have hne : base ≠ "" := by
      rintro rfl
      exact absurd h (by decide)
    rw [join_eq base (Bool.eq_false_iff.mpr habsolute), lead]
    split
    · rwa [isAbsolute_append hne]
    · rwa [String.append_assoc, isAbsolute_append hne]

/-- Whatever is in a text is a slash or in one of its pieces. -/
theorem exists_piece_of_mem {c : Char} {l : List Char} (h : c ∈ l) (hne : c ≠ '/') :
    ∃ piece ∈ pieces l, c ∈ piece := by
  induction l with
  | nil => exact nomatch h
  | cons d rest ih =>
    rw [pieces]
    split
    · rename_i hd
      obtain ⟨piece, hpiece, hc⟩ := ih ((List.mem_cons.mp h).resolve_left (hd ▸ hne))
      exact ⟨piece, List.mem_cons_of_mem _ hpiece, hc⟩
    · -- The character is put in front of the first piece of what comes after it.
      cases hrest : pieces rest with
      | nil => exact absurd hrest (pieces_ne_nil rest)
      | cons first others =>
        rw [hrest] at ih
        rcases List.mem_cons.mp h with rfl | hc
        · exact ⟨_, List.mem_cons_self, List.mem_cons_self⟩
        · obtain ⟨piece, hpiece, hc⟩ := ih hc
          rcases List.mem_cons.mp hpiece with rfl | hother
          · exact ⟨_, List.mem_cons_self, List.mem_cons_of_mem _ hc⟩
          · exact ⟨piece, List.mem_cons_of_mem _ hother, hc⟩

/-- What is in a path without slashes is in a name. -/
theorem exists_name_of_mem {c : Char} (h : c ∈ path.toList) (hne : c ≠ '/') :
    ∃ name ∈ names path, c ∈ name.toList := by
  obtain ⟨piece, hpiece, hc⟩ := exists_piece_of_mem h hne
  exact ⟨String.ofList piece, ofList_mem_namesIn (List.mem_reverse.mpr hpiece)
    (List.ne_nil_of_mem hc), by simpa using hc⟩

end ReleaseArtifacts.Path
