import ReleaseArtifacts.FileSystem.Write
import ReleaseArtifacts.Proofs.FileSystem.Leading
import ReleaseArtifacts.Proofs.Path.Below

namespace ReleaseArtifacts.FileSystem

/-!
# Writing files

What creating folders and writing files does to a file system, whatever links there are in it.

* `AddsFolders`, `AddsAlong` — nothing happens but that folders are added, and where.
* `makeFolders_adds`, `makeFolders_ok` — what creating the folders of a file does.
* `Stores` — the contents of one file are replaced, or the file is added.
* `Prepares` — the folders of a file are there, and it can be stored, whatever its contents are.
* `exists_prepares`, `write_eq_ok` — what writing a file does if it succeeds.
* `Ready` — there is a file that can be written again; `Ready.write` says how, and `Ready.grows`
  that it stays so.
-/

open ReleaseArtifacts.Path (Step)

variable {s s' s'' : FileSystem} {path name : String} {paths : List String} {place folder : Place}
  {contents : Bytes}

/-! ### Adding folders -/

/-- Nothing happens but that folders are added. -/
structure AddsFolders (s s' : FileSystem) : Prop where
  current : s'.current = s.current
  tree : s.tree.AddsFolders s'.tree

namespace AddsFolders

theorem refl (s : FileSystem) : AddsFolders s s := ⟨rfl, .refl _⟩

theorem trans (h : AddsFolders s s') (h' : AddsFolders s' s'') : AddsFolders s s'' :=
  ⟨h'.current.trans h.current, h.tree.trans h'.tree⟩

theorem grows (h : AddsFolders s s') : Grows s s' := ⟨h.current, h.tree.grows⟩

end AddsFolders

/-- Nothing happens but that folders are added, each of them where one of the paths leads. -/
structure AddsAlong (s : FileSystem) (paths : List String) (s' : FileSystem) : Prop
    extends AddsFolders s s' where
  along : ∀ p, s'.tree.get? p = s.tree.get? p ∨ ∃ path ∈ paths, s'.LeadsTo false path p

namespace AddsAlong

theorem refl (s : FileSystem) (paths : List String) : AddsAlong s paths s :=
  ⟨.refl s, fun _ => .inl rfl⟩

theorem trans {outer : List String} (h : AddsAlong s outer s') (h' : AddsAlong s' [path] s'') :
    AddsAlong s (path :: outer) s'' where
  toAddsFolders := h.toAddsFolders.trans h'.toAddsFolders
  along p := by
    rcases h'.along p with hsame | ⟨_, hpath, hleads⟩
    · rcases h.along p with hsame' | ⟨folder, hfolder, hleads⟩
      · exact .inl (hsame.trans hsame')
      · exact .inr ⟨folder, by simp [hfolder], hleads.grows h'.grows⟩
    · obtain rfl := List.mem_singleton.mp hpath
      exact .inr ⟨_, List.mem_cons_self, hleads⟩

/-- More paths do no harm. -/
theorem mono {paths' : List String} (h : AddsAlong s paths s') (hsub : paths ⊆ paths') :
    AddsAlong s paths' s' :=
  ⟨h.toAddsFolders, fun p => (h.along p).imp_right fun ⟨path, hpath, hleads⟩ =>
    ⟨path, hsub hpath, hleads⟩⟩

end AddsAlong

/-! ### One folder -/

/-- The steps of a path without the slash at its end. -/
def namedSteps (path : String) : List Step :=
  if (Path.steps path).getLast? = some .slash then (Path.steps path).dropLast else Path.steps path

theorem steps_eq_named (path : String) :
    ∃ tail, Path.steps path = namedSteps path ++ tail ∧ (tail = [] ∨ tail = [.slash]) := by
  rw [namedSteps]
  split
  · rename_i hlast
    exact ⟨[.slash], (List.dropLast_append_getLast? _ hlast).symm, .inr rfl⟩
  · exact ⟨[], (List.append_nil _).symm, .inl rfl⟩

/-- What the last step of a path names, if that is not there yet. -/
def vacancyIn (t : FileTree) (folder : Place) (last : Option Step) :
    Except PathFault (String × Place) :=
  if t.isFolder folder then
    match last with
    | some (.down name) =>
      if nameLimit < name.utf8ByteSize then .error .nameTooLong
      else if (t.get? (name :: folder)).isSome then .error .alreadyExists
      else .ok (name, folder)
    | _ => .error .alreadyExists
  else .error .notFolder

/-- A vacancy is looked for in the folder that the other steps lead to. -/
theorem vacancy_eq {start : Place} (hstart : s.start path = .ok start) :
    s.vacancy path =
      match s.tree.walk false linkLimit start (namedSteps path).dropLast with
      | .error fault => .error fault
      | .ok folder => vacancyIn s.tree folder (namedSteps path).getLast? := by
  rw [vacancy, hstart]
  show (s.tree.walk false linkLimit start (namedSteps path).dropLast >>= _) = _
  cases s.tree.walk false linkLimit start (namedSteps path).dropLast with
  | error fault => rfl
  | ok folder =>
    show (if (!s.tree.isFolder folder) = true then _ else _) = _
    dsimp only
    unfold vacancyIn
    cases s.tree.isFolder folder <;> rfl

/-- What is known of a vacancy: the path names it, perhaps with a slash after the name. -/
theorem vacancy_eq_ok (h : s.vacancy path = .ok (name, folder)) :
    ∃ start n front tail, s.start path = .ok start ∧ n ≤ linkLimit ∧
      s.tree.Leads false start front n folder ∧
      Path.steps path = front ++ .down name :: tail ∧ (tail = [] ∨ tail = [.slash]) ∧
      s.tree.get? folder = some .folder ∧ name.utf8ByteSize ≤ nameLimit ∧
      s.tree.get? (name :: folder) = none := by
  cases hstart : s.start path with
  | error fault =>
    rw [vacancy, hstart] at h
    exact nomatch h
  | ok start =>
    rw [vacancy_eq hstart] at h
    split at h
    · exact nomatch h
    · rename_i folder' hwalk
      obtain ⟨n, hn, hleads⟩ := FileTree.walk_eq_ok_iff.mp hwalk
      -- Every check that was passed says one thing about the vacancy.
      unfold vacancyIn at h
      split at h
      case isFalse => exact nomatch h
      rename_i hfolder
      split at h
      case h_2 => exact nomatch h
      rename_i name' hlast
      split at h
      case isTrue => exact nomatch h
      rename_i hshort
      split at h
      case isTrue => exact nomatch h
      rename_i hnone
      obtain ⟨rfl, rfl⟩ := Prod.mk.inj (Except.ok.inj h)
      obtain ⟨tail, hsteps, htail⟩ := steps_eq_named path
      refine ⟨start, n, _, tail, rfl, hn, hleads, ?_, htail, FileTree.isFolder_iff.mp hfolder,
        Nat.le_of_not_lt hshort, Option.not_isSome_iff_eq_none.mp hnone⟩
      rw [hsteps, ← List.dropLast_append_getLast? _ hlast, List.dropLast_concat, List.append_assoc,
        List.singleton_append]

/-- **A folder that is created.**  Nothing else happens. -/
theorem makeFolder_eq_ok (h : s.makeFolder path = .ok s') :
    s.AddsAlong [path] s' ∧ s'.IsFolder path := by
  rw [makeFolder] at h
  cases hvacancy : s.vacancy path with
  | error fault => rw [hvacancy] at h; exact nomatch h
  | ok vacancy =>
    obtain ⟨name, folder⟩ := vacancy
    rw [hvacancy] at h
    obtain rfl := Except.ok.inj h
    obtain ⟨start, n, front, tail, hstart, hn, hleads, hsteps, htail, hfolder, hshort, hnone⟩ :=
      vacancy_eq_ok hvacancy
    have hadds := FileTree.addsFolders_put hfolder hnone
    have hput := FileTree.get?_put .folder hfolder
      (show s.tree.get? (name :: folder) ≠ some .folder by simp [hnone])
    have hmade : (s.tree.put name folder .folder).get? (name :: folder) = some .folder := by
      rw [hput, if_pos rfl]
    suffices hleads : LeadsTo { s with tree := s.tree.put name folder .folder } false path
        (name :: folder) by
      refine ⟨⟨⟨rfl, hadds⟩, fun p => ?_⟩, name :: folder, hleads, hmade⟩
      by_cases hp : p = name :: folder
      · exact .inr ⟨path, List.mem_singleton_self _, hp ▸ hleads⟩
      · exact .inl ((hput p).trans (if_neg hp))
    refine ⟨start, n, hstart, hn, ?_⟩
    have hlast : (s.tree.put name folder .folder).Leads false folder (.down name :: tail) 0
        (name :: folder) := by
      refine .down (hadds.get?_eq hfolder) hshort (by simp) hmade (by simp) ?_
      -- A slash after the name is a step in the new folder.
      rcases htail with rfl | rfl
      · exact .here _
      · exact .move hmade rfl (.here _)
    rw [hsteps]
    exact (hleads.grows hadds.grows).append hlast (by simp)

/-- No folder is created where there is one; the fault is not that something is missing. -/
theorem makeFolder_of_isFolder (h : s.IsFolder path) :
    ∃ fault, s.makeFolder path = .error fault ∧ fault ≠ .missing := by
  suffices hvacancy : ∃ fault, s.vacancy path = .error fault ∧ fault ≠ .missing by
    obtain ⟨fault, hfault, hne⟩ := hvacancy
    exact ⟨fault, by rw [makeFolder, hfault]; rfl, hne⟩
  obtain ⟨place, ⟨start, n, hstart, hn, hleads⟩, hfolder⟩ := h
  obtain ⟨tail, hsteps, -⟩ := steps_eq_named path
  have hparts : namedSteps path =
      (namedSteps path).dropLast ++ (namedSteps path).getLast?.toList := by
    cases hlast : (namedSteps path).getLast? with
    | none => simp [List.getLast?_eq_none_iff.mp hlast]
    | some step => exact (List.dropLast_append_getLast? step hlast).symm
  rw [hsteps, hparts, List.append_assoc] at hleads
  obtain ⟨p, k, m, hfront, hback, hsum⟩ := hleads.exists_between
  have hwalk : s.tree.walk false linkLimit start (namedSteps path).dropLast = .ok p :=
    FileTree.walk_eq_ok_iff.mpr ⟨k, by omega, hfront⟩
  rw [vacancy_eq hstart, hwalk]
  dsimp only
  unfold vacancyIn
  split
  case isFalse => exact ⟨_, rfl, by simp⟩
  split
  case h_2 => exact ⟨_, rfl, by simp⟩
  rename_i name hlast
  split
  case isTrue => exact ⟨_, rfl, by simp⟩
  -- The last step was taken when the path led to the folder, so what it names is there.
  rw [hlast] at hback
  have hfound : (s.tree.get? (name :: p)).isSome := by
    cases hback with
    | move _ moves => exact absurd moves (by simp [FileTree.unnamed])
    | fresh _ _ creates => exact absurd creates Bool.false_ne_true
    | down _ _ _ found => rw [found]; rfl
    | link _ _ _ found => rw [found]; rfl
  rw [if_pos hfound]
  exact ⟨_, rfl, by simp⟩

/-! ### Several folders -/

/-- Making sure of a folder adds no more than that. -/
theorem ensureFolder_adds (s : FileSystem) (path : String) :
    s.AddsAlong [path] (s.ensureFolder path).1 := by
  rw [ensureFolder]
  split
  · rename_i hmade
    exact (makeFolder_eq_ok hmade).1
  · split <;> exact .refl s _

/-- A folder that was made sure of is there. -/
theorem ensureFolder_ok (h : (s.ensureFolder path).2 = .ok ()) :
    (s.ensureFolder path).1.IsFolder path := by
  rw [ensureFolder] at h ⊢
  split at h
  · rename_i hmade
    exact (makeFolder_eq_ok hmade).2
  · split at h
    · rename_i hfolder
      rw [if_pos hfolder]
      exact hasFolder_iff.mp hfolder
    · exact nomatch h

/-- **Creating several folders.**  Nothing happens but that folders are added where the paths lead,
    even if something goes wrong. -/
theorem makeFolders_adds (s : FileSystem) (paths : List String) :
    s.AddsAlong paths (s.makeFolders paths).1 := by
  induction paths with
  | nil => exact .refl s _
  | cons path outer ih =>
    rw [makeFolders]
    split
    · rename_i hmade
      exact (makeFolder_eq_ok hmade).1.mono (by simp)
    · split
      · rename_i houter
        rw [houter] at ih
        exact ih.trans (ensureFolder_adds ..)
      · rename_i houter
        rw [houter] at ih
        exact ih.mono (List.subset_cons_self ..)
    · split <;> exact .refl s _

/-- The innermost folder is there afterwards if nothing goes wrong. -/
theorem makeFolders_ok (h : (s.makeFolders (path :: paths)).2 = .ok ()) :
    (s.makeFolders (path :: paths)).1.IsFolder path := by
  rw [makeFolders] at h ⊢
  split at h
  · rename_i hmade
    exact (makeFolder_eq_ok hmade).2
  · split at h
    · exact ensureFolder_ok h
    · exact nomatch h
  · split at h
    · rename_i hfolder
      rw [if_pos hfolder]
      exact hasFolder_iff.mp hfolder
    · exact nomatch h

/-- Where the innermost folder is there nothing has to be done. -/
theorem makeFolders_of_isFolder (h : s.IsFolder path) (paths : List String) :
    s.makeFolders (path :: paths) = (s, .ok ()) := by
  obtain ⟨fault, hfault, hne⟩ := makeFolder_of_isFolder h
  rw [makeFolders, hfault]
  cases fault with
  | missing => exact absurd rfl hne
  | _ => exact if_pos (hasFolder_iff.mpr h)

/-! ### Files -/

/-- The contents of one file are replaced, or the file is added. -/
structure Stores (s : FileSystem) (place : Place) (contents : Bytes) (s' : FileSystem) : Prop where
  current : s'.current = s.current
  get? : ∀ p, s'.tree.get? p = if p = place then some (.file contents) else s.tree.get? p

/-- **Storing.**  A file is stored where its path leads, unless that is to a folder. -/
theorem store_of_leadsTo (h : s.LeadsTo true path place)
    (hnone : s.tree.get? place ≠ some .folder) (contents : Bytes) :
    ∃ s', s.store path contents = .ok s' ∧ s.Stores place contents s' ∧ s.Grows s' := by
  obtain ⟨start, n, hstart, hn, hleads⟩ := h
  have hstarts := hleads.folder_of_ne_nil (Path.steps_ne_nil path)
  -- The file is not in the place of the root, nor of a link.
  obtain ⟨name, folder, rfl⟩ : ∃ name folder, place = name :: folder := by
    cases place with
    | nil => exact absurd rfl hnone
    | cons name folder => exact ⟨name, folder, rfl⟩
  have hfolder : s.tree.get? folder = some .folder := by
    rcases hleads.lands hstarts with ⟨entry, hfound, -⟩ | ⟨-, _, _, heq, hfolder⟩
    · exact FileTree.get?_of_isSome (by rw [hfound]; rfl)
    · exact (List.cons.inj heq).2 ▸ hfolder
  have hplain : ∀ target, s.tree.get? (name :: folder) ≠ some (.link target) := by
    intro target hlink
    rcases hleads.lands hstarts with ⟨entry, hfound, hplain⟩ | ⟨hvacant, -⟩
    · exact hplain target (Option.some.inj (hfound.symm.trans hlink))
    · exact absurd (hvacant.symm.trans hlink) (by simp)
  refine ⟨{ s with tree := s.tree.put name folder (.file contents) }, ?_,
    ⟨rfl, FileTree.get?_put _ hfolder hnone⟩,
    ⟨rfl, FileTree.grows_put_file contents hfolder hnone hplain⟩⟩
  have hlocate := locate_eq_ok_iff.mpr ⟨start, n, hstart, hn, hleads⟩
  have hisFolder : s.tree.isFolder (name :: folder) = false :=
    Bool.eq_false_iff.mpr (mt FileTree.isFolder_iff.mp hnone)
  rw [store, hlocate]
  dsimp only [bind, Except.bind]
  rw [hisFolder]
  rfl

/-- Nothing is stored where a folder is. -/
theorem store_of_folder (h : s.LeadsTo true path place)
    (hfolder : s.tree.get? place = some .folder) (contents : Bytes) :
    s.store path contents = .error .isFolder := by
  have hisFolder : s.tree.isFolder place = true := FileTree.isFolder_iff.mpr hfolder
  rw [store, locate_eq_ok_iff.mpr h]
  dsimp only [bind, Except.bind]
  rw [hisFolder]
  cases place <;> rfl

/-- What storing does if it succeeds. -/
theorem store_eq_ok (h : s.store path contents = .ok s') :
    ∃ place, s.LeadsTo true path place ∧ s.tree.get? place ≠ some .folder ∧
      s.Stores place contents s' ∧ s.Grows s' := by
  cases hlocate : s.locate true path with
  | error fault =>
    rw [store, hlocate] at h
    exact nomatch h
  | ok place =>
    have hleads := locate_eq_ok_iff.mp hlocate
    have hnone : s.tree.get? place ≠ some .folder := fun hfolder =>
      absurd ((store_of_folder hleads hfolder contents).symm.trans h) (by simp)
    obtain ⟨s'', hstore, hstores, hgrows⟩ := store_of_leadsTo hleads hnone contents
    obtain rfl := Except.ok.inj (hstore.symm.trans h)
    exact ⟨place, hleads, hnone, hstores, hgrows⟩

/-! ### Writing -/

/-- The folders of a file are made, and then its path leads to where it can be stored. -/
structure Prepares (s : FileSystem) (path : String) (place : Place) (prepared : FileSystem) :
    Prop where
  makes : s.makeFolders (Path.folders path) = (prepared, .ok ())
  leads : prepared.LeadsTo true path place
  noFolder : prepared.tree.get? place ≠ some .folder

namespace Prepares

variable {prepared : FileSystem}

theorem adds (h : s.Prepares path place prepared) : s.AddsAlong (Path.folders path) prepared := by
  have hadds := makeFolders_adds s (Path.folders path)
  rwa [h.makes] at hadds

/-- The innermost folder is there. -/
theorem isFolder (h : s.Prepares path place prepared) :
    ∀ folder ∈ (Path.folders path).head?, prepared.IsFolder folder := by
  intro folder hfolder
  obtain ⟨outer, houter⟩ := List.head?_eq_some_iff.mp hfolder
  have hmade : (s.makeFolders (folder :: outer)).1.IsFolder folder :=
    makeFolders_ok (by rw [← houter, h.makes])
  rwa [← houter, h.makes] at hmade

/-- What is written does not matter. -/
theorem write (h : s.Prepares path place prepared) (contents : Bytes) :
    ∃ s', s.write path contents = (s', .ok ()) ∧ prepared.Stores place contents s' ∧
      prepared.Grows s' := by
  obtain ⟨s', hstore, hstores, hgrows⟩ := store_of_leadsTo h.leads h.noFolder contents
  refine ⟨s', ?_, hstores, hgrows⟩
  rw [FileSystem.write, h.makes]
  simp only [hstore]

end Prepares

/-- Where the innermost folder is there nothing has to be made. -/
theorem prepares_of_isFolder (hfolders : ∀ folder ∈ (Path.folders path).head?, s.IsFolder folder)
    (hleads : s.LeadsTo true path place) (hnone : s.tree.get? place ≠ some .folder) :
    s.Prepares path place s where
  makes := by
    cases houter : Path.folders path with
    | nil => rfl
    | cons folder outer =>
      exact makeFolders_of_isFolder (hfolders folder (by rw [houter]; rfl)) outer
  leads := hleads
  noFolder := hnone

/-- What is written was prepared before. -/
theorem exists_prepares (h : s.write path contents = (s', .ok ())) :
    ∃ place prepared, s.Prepares path place prepared ∧ prepared.Stores place contents s' ∧
      prepared.Grows s' := by
  rw [FileSystem.write] at h
  split at h
  · exact nomatch h
  rename_i prepared hmade
  split at h
  case h_2 => exact nomatch h
  rename_i stored hstore
  obtain rfl := (Prod.mk.inj h).1
  obtain ⟨place, hleads, hnone, hstores, hgrows⟩ := store_eq_ok hstore
  exact ⟨place, prepared, ⟨hmade, hleads, hnone⟩, hstores, hgrows⟩

/-- There is a file that can be written again. -/
structure Ready (s : FileSystem) (path : String) (place : Place) : Prop where
  folders : ∀ folder ∈ (Path.folders path).head?, s.IsFolder folder
  leads : s.LeadsTo true path place
  file : ∃ contents, s.tree.get? place = some (.file contents)

/-- It stays so. -/
theorem Ready.grows (h : s.Ready path place) (hgrows : Grows s s') : s'.Ready path place where
  folders folder hfolder := (h.folders folder hfolder).grows hgrows
  leads := h.leads.grows hgrows
  file := by
    obtain ⟨contents, hfile⟩ := h.file
    exact hgrows.tree.file _ _ hfile

/-- **Writing again.**  Where a file was written, writing it again replaces its contents and does
    nothing else. -/
theorem Ready.write (h : s.Ready path place) (contents : Bytes) :
    ∃ s', s.write path contents = (s', .ok ()) ∧ s.Stores place contents s' ∧ s.Grows s' := by
  obtain ⟨old, hold⟩ := h.file
  exact (prepares_of_isFolder h.folders h.leads (by simp [hold])).write contents

/-- **Writing.**  If it succeeds then the path leads to a file with the new contents, which can be
    written again; the other files are what they were. -/
theorem write_eq_ok (h : s.write path contents = (s', .ok ())) :
    ∃ place, s'.Ready path place ∧ s.Grows s' ∧ s'.tree.get? place = some (.file contents) ∧
      ∀ p old, p ≠ place → s.tree.get? p = some (.file old) →
        s'.tree.get? p = some (.file old) := by
  obtain ⟨place, prepared, hprepares, hstores, hgrows⟩ := exists_prepares h
  -- What leads to the file and to the folder it lies in goes on to do so while the tree grows.
  have hplace : s'.tree.get? place = some (.file contents) := by
    rw [hstores.get?, if_pos rfl]
  refine ⟨place, ⟨fun folder hfolder => (hprepares.isFolder folder hfolder).grows hgrows,
    hprepares.leads.grows hgrows, contents, hplace⟩, hprepares.adds.grows.trans hgrows, hplace, ?_⟩
  intro p old hp hold
  rw [hstores.get?, if_neg hp]
  exact hprepares.adds.tree.get?_eq hold

end ReleaseArtifacts.FileSystem
