import ReleaseArtifacts.Proofs.FileSystem.Writing
import ReleaseArtifacts.Proofs.FileTree.Descending

namespace ReleaseArtifacts.FileSystem

/-!
# Going down from a folder

In a tree without links it can be told from the places alone where paths lead, and which folders can
be made.

* `GoesDown` — a path goes down from a folder, name by name.
* `GoesDown.leadsTo`, `GoesDown.locate_of_missing` — what is found at the end of it.
* `GoesDown.makeFolder_of_free`, `GoesDown.makeFolder_of_taken` and
  `GoesDown.makeFolder_of_not_folder` — what becomes of a folder that is made there.
* `MakesFolders`, `Nested.makeFolders` — making folders that lie in each other.
-/

variable {s s' : FileSystem} {path name : String} {paths : List String} {folder place : Place}
  {names outer : List String}

/-- A name that an entry of a folder can have. -/
structure CanName (name : String) : Prop extends Path.IsName name where
  lacksNul : '\x00' ∉ name.toList
  short : name.utf8ByteSize ≤ nameLimit

theorem canName_iff : CanName name ↔ '/' ∉ name.toList ∧ name ≠ "" ∧ name ≠ "." ∧ name ≠ ".." ∧
    '\x00' ∉ name.toList ∧ name.utf8ByteSize ≤ nameLimit :=
  ⟨fun h => ⟨h.lacksSlash, h.notEmpty, h.notHere, h.notOutside, h.lacksNul, h.short⟩,
    fun ⟨hslash, hempty, hhere, houtside, hnul, hshort⟩ =>
      ⟨⟨hslash, hempty, hhere, houtside⟩, hnul, hshort⟩⟩

instance (name : String) : Decidable (CanName name) := decidable_of_iff _ canName_iff.symm

/-- A path goes down from a folder of a tree without links, name by name; the innermost name comes
    first. -/
structure GoesDown (s : FileSystem) (path : String) (folder : Place) (names : List String) :
    Prop where
  linkless : s.tree.Linkless
  isFolder : s.tree.get? folder = some .folder
  canName : ∀ name ∈ names, CanName name
  way : ∃ start front n, s.start path = .ok start ∧ n ≤ linkLimit ∧
    s.tree.Leads false start front n folder ∧ Path.steps path = front ++ names.reverse.map .down

namespace GoesDown

/-- It stays so, for no links come up. -/
theorem grows (h : s.GoesDown path folder names) (hgrows : s.Grows s') :
    s'.GoesDown path folder names where
  linkless place target hlink := h.linkless place target ((hgrows.tree.link place target).mpr hlink)
  isFolder := hgrows.tree.folder _ h.isFolder
  canName := h.canName
  way := by
    obtain ⟨start, front, n, hstart, hn, hleads, hsteps⟩ := h.way
    exact ⟨start, front, n, (start_congr hgrows.current path).trans hstart, hn,
      hleads.grows hgrows.tree, hsteps⟩

/-! ### Finding -/

/-- The path of what is there leads to it. -/
theorem leadsTo (h : s.GoesDown path folder names) {entry : Entry}
    (hfound : s.tree.get? (names ++ folder) = some entry) :
    s.LeadsTo false path (names ++ folder) := by
  obtain ⟨start, front, n, hstart, hn, hleads, hsteps⟩ := h.way
  have hdown := FileTree.leads_downs names.reverse h.linkless h.isFolder
    (fun name hname => (h.canName name (List.mem_reverse.mp hname)).short)
    (by rwa [List.reverse_reverse])
  rw [List.reverse_reverse] at hdown
  exact ⟨start, n, hstart, hn, hsteps ▸ hleads.append hdown (by simp)⟩

/-- A walk to the folder, and on along names. -/
theorem walk_eq (h : s.GoesDown path folder names) (houter : ∀ name ∈ outer, CanName name)
    {start : Place} {front : List Path.Step} {n : Nat} (hn : n ≤ linkLimit)
    (hleads : s.tree.Leads false start front n folder) :
    s.tree.walk false linkLimit start (front ++ outer.reverse.map .down) =
      if (s.tree.get? (outer ++ folder)).isSome then .ok (outer ++ folder)
      else .error (if s.tree.isOpen (outer ++ folder) then .missing else .notFolder) := by
  have hshort : ∀ name ∈ outer.reverse, name.utf8ByteSize ≤ nameLimit := fun name hname =>
    (houter name (List.mem_reverse.mp hname)).short
  cases hfound : s.tree.get? (outer ++ folder) with
  | none =>
    have hwalk := FileTree.walk_downs_of_missing outer.reverse h.linkless (linkLimit - n) h.isFolder
      hshort (by rwa [List.reverse_reverse])
    have happend := hleads.walk_append (b := outer.reverse.map .down) (linkLimit - n)
    rw [Nat.sub_add_cancel hn] at happend
    rw [happend, hwalk, List.reverse_reverse]
    rfl
  | some entry =>
    have hdown := FileTree.leads_downs outer.reverse h.linkless h.isFolder hshort
      (by rwa [List.reverse_reverse])
    rw [List.reverse_reverse] at hdown
    exact FileTree.walk_eq_ok_iff.mpr ⟨n, hn, hleads.append hdown (by simp)⟩

/-- The path of what is missing leads nowhere. -/
theorem locate_of_missing (h : s.GoesDown path folder names)
    (hmissing : s.tree.get? (names ++ folder) = none) :
    s.locate false path =
      .error (if s.tree.isOpen (names ++ folder) then .missing else .notFolder) := by
  obtain ⟨start, front, n, hstart, hn, hleads, hsteps⟩ := h.way
  have hwalk := h.walk_eq h.canName hn hleads
  rw [hmissing] at hwalk
  rw [locate, hstart, hsteps]
  exact hwalk

/-- There is a folder at the end of a path exactly if there is one at the place. -/
theorem hasFolder_iff (h : s.GoesDown path folder names) :
    s.hasFolder path = true ↔ s.tree.get? (names ++ folder) = some .folder := by
  rw [FileSystem.hasFolder_iff]
  refine ⟨?_, fun hfolder => ⟨_, h.leadsTo hfolder, hfolder⟩⟩
  rintro ⟨place, hleads, hfolder⟩
  cases hfound : s.tree.get? (names ++ folder) with
  | none =>
    have hlocate := h.locate_of_missing hfound
    exact absurd (hlocate.symm.trans (locate_eq_ok_iff.mpr hleads)) (by simp)
  | some entry =>
    obtain rfl := hleads.unique (h.leadsTo hfound)
    exact hfound ▸ hfolder

section Entries

variable (h : s.GoesDown path folder (name :: outer))

include h

/-- The path of a place in a folder leads to it if a file is to be created. -/
theorem leadsTo_creating (hfolder : s.tree.get? (outer ++ folder) = some .folder) :
    s.LeadsTo true path (name :: (outer ++ folder)) := by
  obtain ⟨start, front, n, hstart, hn, hleads, hsteps⟩ := h.way
  obtain ⟨hname, houter⟩ := List.forall_mem_cons.mp h.canName
  have hdown := FileTree.leads_downs outer.reverse h.linkless h.isFolder
    (fun n hn => (houter n (List.mem_reverse.mp hn)).short)
    (by rwa [List.reverse_reverse])
  rw [List.reverse_reverse] at hdown
  have hlast := FileTree.leads_down_creating h.linkless hfolder hname.short
  rw [List.reverse_cons, List.map_append] at hsteps
  refine ⟨start, n, hstart, hn, hsteps ▸ hleads.append (hdown.append hlast (by simp)) fun _ => ?_⟩
  cases outer.reverse <;> simp

/-- A new entry is looked for in its folder. -/
theorem vacancy_eq :
    s.vacancy path =
      if (s.tree.get? (outer ++ folder)).isSome then
        vacancyIn s.tree (outer ++ folder) (some (.down name))
      else .error (if s.tree.isOpen (outer ++ folder) then .missing else .notFolder) := by
  obtain ⟨start, front, n, hstart, hn, hleads, hsteps⟩ := h.way
  have hnamed : namedSteps path = (front ++ outer.reverse.map .down) ++ [.down name] := by
    rw [namedSteps, hsteps]
    simp
  rw [FileSystem.vacancy_eq hstart, hnamed, List.dropLast_concat, List.getLast?_concat,
    h.walk_eq (fun n hn => h.canName n (List.mem_cons_of_mem _ hn)) hn hleads]
  cases s.tree.get? (outer ++ folder) <;> rfl

/-- A free place in a folder becomes a folder. -/
theorem makeFolder_of_free (hfolder : s.tree.get? (outer ++ folder) = some .folder)
    (hfree : s.tree.get? (name :: (outer ++ folder)) = none) :
    s.makeFolder path = .ok { s with tree := s.tree.put name (outer ++ folder) .folder } := by
  have hname := h.canName name (by simp)
  rw [makeFolder, h.vacancy_eq, if_pos (by simp [hfolder]), vacancyIn,
    if_pos (FileTree.isFolder_iff.mpr hfolder)]
  dsimp only
  rw [if_neg (Nat.not_lt_of_le hname.short), if_neg (by simp [hfree])]
  rfl

/-- A place in a folder that is taken stays as it is. -/
theorem makeFolder_of_taken (hfolder : s.tree.get? (outer ++ folder) = some .folder)
    (htaken : (s.tree.get? (name :: (outer ++ folder))).isSome) :
    s.makeFolder path = .error .alreadyExists := by
  have hname := h.canName name (by simp)
  rw [makeFolder, h.vacancy_eq, if_pos (by simp [hfolder]), vacancyIn,
    if_pos (FileTree.isFolder_iff.mpr hfolder)]
  dsimp only
  rw [if_neg (Nat.not_lt_of_le hname.short), if_pos htaken]
  rfl

/-- Outside folders nothing is made. -/
theorem makeFolder_of_not_folder (hnone : s.tree.get? (outer ++ folder) ≠ some .folder) :
    s.makeFolder path =
      .error (if s.tree.isOpen (outer ++ folder) then .missing else .notFolder) := by
  rw [makeFolder, h.vacancy_eq]
  cases hfound : s.tree.get? (outer ++ folder) with
  | none => rfl
  | some entry =>
    have hclosed : s.tree.isOpen (outer ++ folder) = false :=
      FileTree.isOpen_of_taken (by rw [hfound]; rfl) hnone
    rw [hclosed, vacancyIn, if_neg (mt FileTree.isFolder_iff.mp hnone)]
    rfl

end Entries

end GoesDown

/-! ### Making folders -/

/-- Folders are made at a place and where it is in, and nothing else happens. -/
structure MakesFolders (s : FileSystem) (place : Place) (s' : FileSystem) : Prop where
  adds : s.AddsFolders s'
  inside : ∀ p, p <:+ place → s'.tree.get? p = some .folder
  outside : ∀ p, ¬ p <:+ place → s'.tree.get? p = s.tree.get? p

/-- Where a folder is no folder has to be made. -/
theorem makesFolders_of_folder (h : s.tree.get? place = some .folder) : s.MakesFolders place s :=
  ⟨.refl s, fun _ hp => FileTree.get?_of_suffix h hp, fun _ _ => rfl⟩

/-- One more folder. -/
theorem MakesFolders.put (h : s.MakesFolders place s')
    (hfree : s'.tree.get? (name :: place) = none) :
    s.MakesFolders (name :: place) { s' with tree := s'.tree.put name place .folder } := by
  have hplace := h.inside place List.suffix_rfl
  have hadds := FileTree.addsFolders_put hplace hfree
  have hnone : s'.tree.get? (name :: place) ≠ some .folder := by simp [hfree]
  have hput := FileTree.get?_put .folder hplace hnone
  refine ⟨h.adds.trans ⟨rfl, hadds⟩, fun p hp => ?_, fun p hp => ?_⟩
  · rcases List.suffix_cons_iff.mp hp with rfl | hsuffix
    · rw [hput, if_pos rfl]
    · exact hadds.get?_eq (h.inside p hsuffix)
  · rw [hput, if_neg (by rintro rfl; exact hp List.suffix_rfl)]
    exact h.outside p fun hsuffix => hp (hsuffix.trans (List.suffix_cons ..))

/-- The paths of folders that lie in each other, the innermost first, down from a folder.  Where the
    names end, no path is left, or there is a folder. -/
inductive Nested (s : FileSystem) (folder : Place) : (paths names : List String) → Prop
  | nil : Nested s folder [] []
  | inside {path : String} {paths : List String} (inside : s.IsFolder path) :
    Nested s folder (path :: paths) []
  | down {path name : String} {paths outer : List String}
      (down : s.GoesDown path folder (name :: outer)) (outside : Nested s folder paths outer) :
    Nested s folder (path :: paths) (name :: outer)

/-- What is reported where a file is in the way of folders: it is in the place of the innermost one,
    or in that of one further outside. -/
def blockage (t : FileTree) (place : Place) : PathFault :=
  if (t.get? place).isSome then .alreadyExists else .notFolder

/-- **Making folders that lie in each other.**  Either no file is in the way, and then there are
    folders all the way down, or nothing happens. -/
theorem Nested.makeFolders (h : s.Nested folder paths names)
    (hisFolder : s.tree.get? folder = some .folder) :
    (s.tree.isOpen (names ++ folder) = true ∧
      ∃ s', s.makeFolders paths = (s', .ok ()) ∧ s.MakesFolders (names ++ folder) s') ∨
    (s.tree.isOpen (names ++ folder) = false ∧
      s.makeFolders paths = (s, .error (blockage s.tree (names ++ folder)))) := by
  induction h with
  | nil =>
    exact .inl ⟨FileTree.isOpen_of_folder hisFolder, s, rfl, makesFolders_of_folder hisFolder⟩
  | inside inside =>
    exact .inl ⟨FileTree.isOpen_of_folder hisFolder, s, makeFolders_of_isFolder inside _,
      makesFolders_of_folder hisFolder⟩
  | @down path name paths outer down outside ih =>
    rw [List.cons_append, FileSystem.makeFolders]
    by_cases hfolder : s.tree.get? (outer ++ folder) = some .folder
    · -- In a folder it depends on what is in the place itself.
      cases hfound : s.tree.get? (name :: (outer ++ folder)) with
      | none =>
        refine .inl ⟨?_, _, ?_, (makesFolders_of_folder hfolder).put hfound⟩
        · rw [FileTree.isOpen_cons_of_free hfound, FileTree.isOpen_of_folder hfolder]
        · rw [down.makeFolder_of_free hfolder hfound]
      | some entry =>
        rw [down.makeFolder_of_taken hfolder (by rw [hfound]; rfl)]
        by_cases hinner : s.tree.get? (name :: (outer ++ folder)) = some .folder
        · exact .inl ⟨FileTree.isOpen_of_folder hinner, s, if_pos (down.hasFolder_iff.mpr hinner),
            makesFolders_of_folder hinner⟩
        · refine .inr ⟨FileTree.isOpen_of_taken (by rw [hfound]; rfl) hinner, ?_⟩
          rw [blockage, hfound]
          exact if_neg (mt down.hasFolder_iff.mp hinner)
    · -- Outside folders it depends on the folders outside, which are made if they are missing.
      have hfree : s.tree.get? (name :: (outer ++ folder)) = none :=
        FileTree.get?_cons_of_not_folder name hfolder
      rw [down.makeFolder_of_not_folder hfolder, FileTree.isOpen_cons_of_free hfree]
      rcases ih with ⟨hopen, s₁, hmade, hmakes⟩ | ⟨hclosed, -⟩
      · have hfree₁ : s₁.tree.get? (name :: (outer ++ folder)) = none := by
          rw [hmakes.outside _ fun hsuffix => ?_, hfree]
          exact absurd hsuffix.length_le (by simp)
        refine .inl ⟨hopen, _, ?_, hmakes.put hfree₁⟩
        rw [if_pos hopen, hmade]
        dsimp only
        rw [ensureFolder, (down.grows hmakes.adds.grows).makeFolder_of_free
          (hmakes.inside _ List.suffix_rfl) hfree₁]
      · refine .inr ⟨hclosed, ?_⟩
        have hnone : s.hasFolder path ≠ true := mt down.hasFolder_iff.mp (by simp [hfree])
        rw [if_neg (by simp [hclosed]), blockage, hfree]
        exact if_neg hnone

end ReleaseArtifacts.FileSystem
