import ReleaseArtifacts.Proofs.FileTree.Growth

namespace ReleaseArtifacts.FileTree

/-!
# Walking down

Walks down from a folder, name by name, in trees without links.

* `isOpen`, `writable` — where folders and files can be written.
* `leads_downs` — names lead down to what is there.
* `walk_downs_of_missing` — what a walk down to nothing reports.
-/

variable {t : FileTree} {place : Place} {name : String} {names : List String} {n links : Nat}

/-! ### Open places -/

/-- A tree without links. -/
def Linkless (t : FileTree) : Prop := ∀ place target, t.get? place ≠ some (.link target)

/-- Nothing but folders is at a place and where it is in. -/
def isOpen (t : FileTree) : Place → Bool
  | [] => true
  | name :: folder =>
    (t.get? (name :: folder) = none ∨ t.get? (name :: folder) = some .folder) && t.isOpen folder

/-- A file can be written to a place. -/
def writable (t : FileTree) : Place → Bool
  | [] => false
  | name :: folder => t.get? (name :: folder) ≠ some .folder && t.isOpen folder

theorem isOpen_iff :
    t.isOpen place = true ↔
      ∀ outer, outer <:+ place → t.get? outer = none ∨ t.get? outer = some .folder := by
  induction place with
  | nil => simp [isOpen]
  | cons name folder ih =>
    simp only [isOpen, Bool.and_eq_true, decide_eq_true_eq, ih, List.suffix_cons_iff]
    constructor
    · rintro ⟨hhere, houter⟩ outer (rfl | h)
      · exact hhere
      · exact houter outer h
    · exact fun h => ⟨h _ (.inl rfl), fun outer houter => h outer (.inr houter)⟩

/-- What a folder is in are folders. -/
theorem get?_of_suffix {outer : Place} (h : t.get? place = some .folder)
    (houter : outer <:+ place) : t.get? outer = some .folder := by
  induction place with
  | nil =>
    obtain rfl := List.suffix_nil.mp houter
    rfl
  | cons name folder ih =>
    rcases List.suffix_cons_iff.mp houter with rfl | hsuffix
    · exact h
    · exact ih (get?_tail h) hsuffix

/-- A folder is open. -/
theorem isOpen_of_folder (h : t.get? place = some .folder) : t.isOpen place = true :=
  isOpen_iff.mpr fun _ houter => .inr (get?_of_suffix h houter)

/-- Nothing is outside folders. -/
theorem get?_cons_of_not_folder (name : String) (h : t.get? place ≠ some .folder) :
    t.get? (name :: place) = none :=
  Option.not_isSome_iff_eq_none.mp fun hfound => h (get?_of_isSome hfound)

/-- A free place is as open as what it would be in. -/
theorem isOpen_cons_of_free (h : t.get? (name :: place) = none) :
    t.isOpen (name :: place) = t.isOpen place := by
  rw [isOpen, h]
  simp

/-- A place that is taken by something else than a folder is not open. -/
theorem isOpen_of_taken (h : (t.get? place).isSome) (hnone : t.get? place ≠ some .folder) :
    t.isOpen place = false := by
  rw [Bool.eq_false_iff]
  intro hopen
  rcases isOpen_iff.mp hopen place List.suffix_rfl with hmissing | hfolder
  · exact absurd h (by simp [hmissing])
  · exact hnone hfolder

/-- Nothing is in what is missing. -/
theorem isOpen_append_of_missing (h : t.get? place = none) (names : List String) :
    t.get? (names ++ place) = none ∧ t.isOpen (names ++ place) = t.isOpen place := by
  induction names with
  | nil => exact ⟨h, rfl⟩
  | cons name names ih =>
    have hnone : t.get? (names ++ place) ≠ some .folder := by simp [ih.1]
    have hfree := get?_cons_of_not_folder name hnone
    exact ⟨hfree, (isOpen_cons_of_free hfree).trans ih.2⟩

/-- What something is in are folders. -/
theorem get?_of_suffix_of_ne {outer : Place} (h : (t.get? place).isSome) (houter : outer <:+ place)
    (hne : outer ≠ place) : t.get? outer = some .folder := by
  cases place with
  | nil => exact absurd (List.suffix_nil.mp houter) hne
  | cons name folder =>
    exact get?_of_suffix (get?_of_isSome h) ((List.suffix_cons_iff.mp houter).resolve_left hne)

/-! ### Walking down -/

/-- Names lead down to what is there. -/
theorem leads_downs {entry : Entry} (names : List String) (hlinkless : t.Linkless)
    (hplace : t.get? place = some .folder)
    (hshort : ∀ name ∈ names, name.utf8ByteSize ≤ nameLimit)
    (hfound : t.get? (names.reverse ++ place) = some entry) :
    t.Leads false place (names.map .down) 0 (names.reverse ++ place) := by
  induction names generalizing place with
  | nil => exact .here _
  | cons name names ih =>
    have hname := hshort name (by simp)
    rw [List.reverse_cons, List.append_assoc, List.singleton_append] at hfound ⊢
    rw [List.map_cons]
    obtain ⟨inner, hinner⟩ : ∃ inner, t.get? (name :: place) = some inner := by
      by_cases heq : name :: place = names.reverse ++ name :: place
      · exact ⟨entry, heq ▸ hfound⟩
      · exact ⟨.folder, get?_of_suffix_of_ne (by rw [hfound]; rfl) (List.suffix_append ..) heq⟩
    refine .down hplace hname (by simp) hinner
      (fun target hlink => hlinkless _ target (hlink ▸ hinner)) ?_
    cases names with
    | nil => exact .here _
    | cons next names =>
      refine ih ?_ (fun n hn => hshort n (by simp [hn])) hfound
      refine get?_of_suffix_of_ne (by rw [hfound]; rfl) (List.suffix_append ..) fun heq => ?_
      have hlength := congrArg List.length heq
      simp only [List.length_cons, List.length_append, List.length_reverse] at hlength
      omega

/-- A name leads to its place in a folder if a file is to be created. -/
theorem leads_down_creating (hlinkless : t.Linkless) (hplace : t.get? place = some .folder)
    (hname : name.utf8ByteSize ≤ nameLimit) :
    t.Leads true place [.down name] 0 (name :: place) := by
  cases hfound : t.get? (name :: place) with
  | none => exact .fresh hplace hname rfl hfound
  | some entry =>
    exact .down hplace hname (by simp) hfound
      (fun target hlink => hlinkless _ target (hlink ▸ hfound)) (.here _)

/-- **A walk down to nothing** fails.  It reports that something is missing, or that there is no
    folder where it should go on, if a file is in its way. -/
theorem walk_downs_of_missing (names : List String) (hlinkless : t.Linkless) (links : Nat)
    (hplace : t.get? place = some .folder) (hshort : ∀ name ∈ names, name.utf8ByteSize ≤ nameLimit)
    (hmissing : t.get? (names.reverse ++ place) = none) :
    t.walk false links place (names.map .down) =
      .error (if t.isOpen (names.reverse ++ place) then .missing else .notFolder) := by
  induction names generalizing place with
  | nil => exact absurd (hplace.symm.trans hmissing) (by simp)
  | cons name names ih =>
    have hname := hshort name (by simp)
    rw [List.reverse_cons, List.append_assoc, List.singleton_append] at hmissing ⊢
    rw [List.map_cons]
    cases hfound : t.get? (name :: place) with
    | none =>
      have hopen : t.isOpen (names.reverse ++ name :: place) = true := by
        rw [(isOpen_append_of_missing hfound _).2, isOpen, hfound, isOpen_of_folder hplace]
        rfl
      rw [walk_down links hplace hname (by simp), hfound, if_pos hopen]
      rfl
    | some entry =>
      rw [walk_down_plain links hplace hname (by simp) hfound
        (fun target hlink => hlinkless _ target (hlink ▸ hfound))]
      cases entry with
      | folder => exact ih hfound (fun n hn => hshort n (by simp [hn])) hmissing
      | link target => exact absurd hfound (hlinkless _ target)
      | file contents =>
        -- The walk has to go on from the file, since there is nothing where it should end.
        cases names with
        | nil => exact absurd (hfound.symm.trans hmissing) (by simp)
        | cons next names =>
          rw [List.map_cons, walk_of_not_folder _ _ _ _ (by simp [hfound]), if_neg]
          intro hopen
          have hblocked := isOpen_iff.mp hopen (name :: place) (List.suffix_append ..)
          simp [hfound] at hblocked

end ReleaseArtifacts.FileTree
