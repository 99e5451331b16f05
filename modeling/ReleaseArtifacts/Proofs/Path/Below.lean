import ReleaseArtifacts.Path.Step
import Mathlib

namespace ReleaseArtifacts.Path

/-!
# Paths below others

* `IsName` — a text that names an entry of a folder.
* `EndsInName` — a path whose last part is not empty and not a dot.
* `below` — the path of a place below another path.
* `steps_below`, `folders_below` — its steps, and the folders that it lies in.
* `join_append` — joining, and what comes after it.
-/

variable {path base name : String} {names : List String}

/-! ### Pieces -/

theorem pieces_eq_splitOn (l : List Char) : pieces l = l.splitOn '/' := by
  induction l with
  | nil => rfl
  | cons c rest ih =>
    rw [pieces, List.splitOn_cons_eq_if_modifyHead, ih]
    by_cases hc : c = '/'
    · simp [hc]
    · simp only [hc, if_false, beq_iff_eq]
      cases hrest : rest.splitOn '/' with
      | nil => exact absurd hrest (List.splitOn_ne_nil '/' rest)
      | cons piece others => rfl

/-- Nothing is left without pieces. -/
theorem pieces_ne_nil (l : List Char) : pieces l ≠ [] := by
  rw [pieces_eq_splitOn]
  exact List.splitOn_ne_nil '/' l

/-- Putting the pieces together again. -/
theorem textOf_pieces (path : String) : textOf (pieces path.toList).reverse = path := by
  rw [textOf, List.reverse_reverse, pieces_eq_splitOn, List.intercalate_splitOn,
    String.ofList_toList]

theorem stepsOf_ne_nil {parts : List (List Char)} (h : parts ≠ []) : stepsOf parts ≠ [] := by
  fun_induction stepsOf parts with
  | case1 => exact absurd rfl h
  | case2 => simp
  | case3 => simp
  | case4 next others ih => exact ih (by simp)
  | case5 => simp

/-- A path has steps, even the empty one. -/
theorem steps_ne_nil (path : String) : steps path ≠ [] := stepsOf_ne_nil (pieces_ne_nil _)

/-- The steps of what comes first do not depend on what comes after it. -/
theorem stepsOf_append {last : List (List Char)} (front : List (List Char)) (h : last ≠ []) :
    stepsOf (front ++ last) = (front.filter (· ≠ [])).map .ofPiece ++ stepsOf last := by
  induction front with
  | nil => rfl
  | cons piece front ih =>
    obtain ⟨next, others, hrest⟩ :=
      List.exists_cons_of_ne_nil (List.append_ne_nil_of_right_ne_nil front h)
    rw [List.cons_append, hrest, stepsOf, ← hrest, ih]
    by_cases hp : piece = [] <;> simp [hp]

/-! ### Names -/

/-- A text that names an entry of a folder. -/
structure IsName (name : String) : Prop where
  lacksSlash : '/' ∉ name.toList
  notEmpty : name ≠ ""
  notHere : name ≠ "."
  notOutside : name ≠ ".."

/-- A path whose last part is not empty and not a dot. -/
def EndsInName (path : String) : Prop :=
  ∃ front piece, pieces path.toList = front ++ [piece] ∧ isBlank piece = false

namespace IsName

theorem pieces_eq (h : IsName name) : pieces name.toList = [name.toList] := by
  rw [pieces_eq_splitOn, List.splitOn_eq_singleton h.lacksSlash]

theorem isBlank_eq (h : IsName name) : isBlank name.toList = false := by
  have hempty : name.toList ≠ [] := fun heq => h.notEmpty (String.toList_inj.mp heq)
  have hhere : name.toList ≠ ['.'] := fun heq => h.notHere (String.toList_inj.mp heq)
  simp [isBlank, hempty, hhere]

theorem ofPiece_eq (h : IsName name) : Step.ofPiece name.toList = .down name := by
  have hhere : name.toList ≠ ['.'] := fun heq => h.notHere (String.toList_inj.mp heq)
  have houtside : name.toList ≠ ['.', '.'] := fun heq => h.notOutside (String.toList_inj.mp heq)
  rw [Step.ofPiece, if_neg hhere, if_neg houtside, String.ofList_toList]

end IsName

/-- A name is a path that ends in a name. -/
theorem IsName.endsInName (h : IsName name) : EndsInName name :=
  ⟨[], _, h.pieces_eq, h.isBlank_eq⟩

/-! ### Below -/

/-- The path of a place below another path; the innermost name comes first. -/
def below (base : String) : List String → String
  | [] => base
  | name :: outer => below base outer ++ "/" ++ name

/-- A slash between two texts is one between their pieces. -/
theorem pieces_append_slash (path rest : String) :
    pieces (path ++ "/" ++ rest).toList = pieces path.toList ++ pieces rest.toList := by
  have htext : (path ++ "/" ++ rest).toList = path.toList ++ '/' :: rest.toList := by
    rw [String.toList_append, String.toList_append, List.append_assoc]
    rfl
  rw [htext, pieces_eq_splitOn, List.splitOn_append_cons_self, ← pieces_eq_splitOn,
    ← pieces_eq_splitOn]

theorem pieces_append_name (path : String) (h : IsName name) :
    pieces (path ++ "/" ++ name).toList = pieces path.toList ++ [name.toList] := by
  rw [pieces_append_slash, h.pieces_eq]

/-- What comes before a slash does not matter at the end. -/
theorem EndsInName.append_slash (h : EndsInName path) (front : String) :
    EndsInName (front ++ "/" ++ path) := by
  obtain ⟨before, piece, hpieces, hblank⟩ := h
  refine ⟨pieces front.toList ++ before, piece, ?_, hblank⟩
  rw [pieces_append_slash, hpieces, List.append_assoc]

/-- A name after a path is one step more. -/
theorem steps_append_name (hpath : EndsInName path) (h : IsName name) :
    steps (path ++ "/" ++ name) = steps path ++ [.down name] := by
  obtain ⟨front, piece, hpieces, hblank⟩ := hpath
  have hne : piece ≠ [] := by
    rintro rfl
    exact absurd hblank (by decide)
  have hname : name.toList ≠ [] := fun heq => h.notEmpty (String.toList_inj.mp heq)
  have hone : ∀ {last : List Char}, last ≠ [] → stepsOf [last] = [Step.ofPiece last] := by
    intro last hlast
    rw [stepsOf, if_neg hlast]
  rw [steps, steps, pieces_append_name path h, hpieces, stepsOf_append _ (by simp), hone hname,
    h.ofPiece_eq, stepsOf_append front (by simp), hone hne]
  simp [hne]

/-- The innermost folder that a name after a path lies in is that path. -/
theorem folders_append_name (hpath : EndsInName path) (h : IsName name) :
    folders (path ++ "/" ++ name) = path :: folders path := by
  obtain ⟨front, piece, hpieces, hblank⟩ := hpath
  have hself : textOf (piece :: front.reverse) = path := by
    rw [← textOf_pieces path, hpieces, List.reverse_append]
    rfl
  have houtward : outward (pieces path.toList).reverse =
      (piece :: front.reverse) :: outward front.reverse := by
    rw [hpieces, List.reverse_append]
    show outward (piece :: front.reverse) = _
    rw [outward, if_neg (by simp [hblank])]
  rw [folders, folders, pieces_append_name path h, List.reverse_append]
  show List.map textOf (List.drop 1 (outward (name.toList :: (pieces path.toList).reverse))) = _
  rw [outward, if_neg (by simp [h.isBlank_eq]), houtward, List.drop_succ_cons, List.drop_zero,
    List.map_cons, hself, List.drop_succ_cons, List.drop_zero]

theorem endsInName_below (hbase : EndsInName base) (hnames : ∀ name ∈ names, IsName name) :
    EndsInName (below base names) := by
  cases names with
  | nil => exact hbase
  | cons name outer => exact (hnames name (by simp)).endsInName.append_slash _

/-- The steps to a place below a path: the outermost name comes first. -/
theorem steps_below (hbase : EndsInName base) (hnames : ∀ name ∈ names, IsName name) :
    steps (below base names) = steps base ++ names.reverse.map .down := by
  induction names with
  | nil => simp [below]
  | cons name outer ih =>
    obtain ⟨hname, houter⟩ := List.forall_mem_cons.mp hnames
    rw [below, steps_append_name (endsInName_below hbase houter) hname, ih houter]
    simp

/-- The innermost folder that a place below a path lies in. -/
theorem folders_below (hbase : EndsInName base) (hnames : ∀ n ∈ name :: names, IsName n) :
    folders (below base (name :: names)) = below base names :: folders (below base names) := by
  obtain ⟨hname, houter⟩ := List.forall_mem_cons.mp hnames
  exact folders_append_name (endsInName_below hbase houter) hname

/-- A path below another one goes on from it. -/
theorem below_eq (base : String) (names : List String) :
    below base names = base ++ below "" names := by
  induction names with
  | nil => exact (String.append_empty).symm
  | cons name outer ih =>
    rw [below, below, ih, String.append_assoc, String.append_assoc, String.append_assoc]

/-! ### Joining -/

/-- What stands before a relative path that is joined. -/
def lead (base : String) : String :=
  if base.toList.getLast?.all (· = '/') then base else base ++ "/"

theorem join_eq (base : String) (h : isAbsolute path = false) :
    join base path = lead base ++ path := by
  rw [join, lead, if_neg (by simp [h])]
  split <;> rfl

/-- Nothing stands before it, or what does ends in a slash. -/
theorem lead_eq (base : String) : lead base = "" ∨ ∃ front, lead base = front ++ "/" := by
  rw [lead]
  split
  · rename_i hall
    cases hlast : base.toList.getLast? with
    | none => exact .inl (String.toList_inj.mp (List.getLast?_eq_none_iff.mp hlast))
    | some c =>
      obtain ⟨front, hfront⟩ := List.getLast?_eq_some_iff.mp hlast
      rw [hlast, Option.all_some, decide_eq_true_eq] at hall
      refine .inr ⟨String.ofList front, String.toList_inj.mp ?_⟩
      rw [hfront, hall, String.toList_append, String.toList_ofList]
      rfl
  · exact .inr ⟨base, rfl⟩

/-- Whether a path is absolute shows at its beginning. -/
theorem isAbsolute_append (hne : path ≠ "") (rest : String) :
    isAbsolute (path ++ rest) = isAbsolute path := by
  obtain ⟨c, front, hpath⟩ :=
    List.exists_cons_of_ne_nil (fun hnil => hne (String.toList_inj.mp hnil))
  rw [isAbsolute, isAbsolute, String.toList_append, hpath]
  rfl

/-- What comes after a relative path comes after the joined one. -/
theorem join_append (base : String) (hne : path ≠ "") (hrelative : isAbsolute path = false)
    (rest : String) : join base (path ++ rest) = join base path ++ rest := by
  rw [join_eq base hrelative, join_eq base ((isAbsolute_append hne rest).trans hrelative),
    String.append_assoc]

/-- A name is a relative path. -/
theorem IsName.isAbsolute_eq (h : IsName name) : isAbsolute name = false := by
  rw [isAbsolute, decide_eq_false_iff_not]
  exact fun hhead => h.lacksSlash (List.mem_of_head? hhead)

/-- The end of a path is that of the joined one. -/
theorem EndsInName.join (h : EndsInName path) (base : String) : EndsInName (join base path) := by
  by_cases habsolute : isAbsolute path = true
  · rwa [Path.join, if_pos habsolute]
  · rw [join_eq base (Bool.eq_false_iff.mpr habsolute)]
    rcases lead_eq base with hempty | ⟨front, hfront⟩
    · rwa [hempty, String.empty_append]
    · rw [hfront]
      exact h.append_slash front

/-- What is below a relative path is below the joined one. -/
theorem join_below (base : String) (hne : path ≠ "") (hrelative : isAbsolute path = false)
    (names : List String) : join base (below path names) = below (join base path) names := by
  rw [below_eq path, below_eq (join base path), join_append base hne hrelative]

/-- The last part of a path that ends in a name is not empty. -/
theorem EndsInName.getLast?_ne (h : EndsInName path) :
    (pieces path.toList).getLast? ≠ some [] := by
  obtain ⟨front, piece, hpieces, hblank⟩ := h
  rw [hpieces, List.getLast?_concat]
  rintro ⟨⟩
  exact absurd hblank (by decide)

theorem EndsInName.ne_empty (h : EndsInName path) : path ≠ "" := by
  rintro rfl
  exact h.getLast?_ne rfl

/-- There is no slash at its end. -/
theorem EndsInName.lead_eq (h : EndsInName path) : lead path = path ++ "/" := by
  rw [lead, if_neg]
  intro hall
  refine h.getLast?_ne ?_
  cases hlast : path.toList.getLast? with
  | none => exact absurd (String.toList_inj.mp (List.getLast?_eq_none_iff.mp hlast)) h.ne_empty
  | some c =>
    obtain ⟨before, hbefore⟩ := List.getLast?_eq_some_iff.mp hlast
    rw [hlast, Option.all_some, decide_eq_true_eq] at hall
    rw [hbefore, hall, pieces_eq_splitOn, List.splitOn_append_cons_self, List.splitOn_nil,
      List.getLast?_concat]

/-- A name that is joined to a path is below it. -/
theorem join_name (hbase : EndsInName base) (hnames : ∀ n ∈ name :: names, IsName n) :
    join (below base names) name = below base (name :: names) := by
  obtain ⟨hname, houter⟩ := List.forall_mem_cons.mp hnames
  rw [join_eq _ hname.isAbsolute_eq, (endsInName_below hbase houter).lead_eq]
  rfl

end ReleaseArtifacts.Path
