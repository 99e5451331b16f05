import ReleaseArtifacts.FileSystem.Basic
import ReleaseArtifacts.Proofs.FileTree.Growth
import ReleaseArtifacts.Proofs.Path.Outside

namespace ReleaseArtifacts.FileSystem

/-!
# Where paths lead

What is found by a path, said with the rules by which its steps lead from place to place.

* `LeadsTo` — a path leads to a place; `locate_eq_ok_iff` says that it is found there.
* `IsFile`, `IsFolder` — what a path leads to.
* `hasFile_iff`, `contents_eq_ok_iff`, `hasFolder_iff` — looking for a file, reading it, and looking
  for a folder agree on it.
* `Grows` — a file system in which only files and folders were added.
-/

variable {s s' s'' : FileSystem} {creating : Bool} {path : String} {place p q : Place}
  {contents : Bytes}

/-- File systems are equal if the same is at every place, and the current folder is the same. -/
theorem ext_get? (hcurrent : s.current = s'.current)
    (h : ∀ place, s.tree.get? place = s'.tree.get? place) : s = s' := by
  obtain ⟨tree, current⟩ := s
  obtain ⟨tree', current'⟩ := s'
  have htree : tree = tree' := FileTree.ext_get? h
  have hsame : current = current' := hcurrent
  rw [htree, hsame]

/-! ### Starting -/

/-- What can be told from a path that a walk can begin along. -/
theorem start_eq_ok {path : String} {start : Place} (h : s.start path = .ok start) :
    '\x00' ∉ path.toList ∧ path ≠ "" ∧ path.utf8ByteSize < pathLimit := by
  rw [FileSystem.start] at h
  split at h
  · cases h
  · rename_i hnul
    split at h
    · cases h
    · rename_i hne
      split at h
      · cases h
      · rename_i hlength
        exact ⟨hnul, hne, Nat.lt_of_not_le hlength⟩

/-- Where a walk begins depends on whether its path is absolute. -/
theorem start_of_isAbsolute_eq {path path' : String} {start : Place} (h : s.start path = .ok start)
    (hnul : '\x00' ∉ path'.toList) (hne : path' ≠ "") (hlength : path'.utf8ByteSize < pathLimit)
    (habsolute : Path.isAbsolute path' = Path.isAbsolute path) : s.start path' = .ok start := by
  obtain ⟨hnul', hne', hlength'⟩ := start_eq_ok h
  rw [FileSystem.start, if_neg hnul', if_neg hne', if_neg (Nat.not_le_of_lt hlength')] at h
  rw [FileSystem.start, if_neg hnul, if_neg hne, if_neg (Nat.not_le_of_lt hlength), habsolute, h]

/-- Where a walk begins depends on the current folder alone. -/
theorem start_congr (h : s'.current = s.current) (path : String) :
    s'.start path = s.start path := by
  rw [start, start, h]

/-- A walk along a path begins where walks along the paths of its folders begin. -/
theorem start_of_liesIn {path folder : String} {start : Place} (h : s.start path = .ok start)
    (hlies : Path.LiesIn path folder) : s.start folder = .ok start := by
  obtain ⟨hnamed, ⟨inner, rfl⟩, -⟩ := hlies
  obtain ⟨hnul, -, hlength⟩ := start_eq_ok h
  rw [String.append_assoc] at h hnul hlength
  refine start_of_isAbsolute_eq h (fun hmem => hnul (by simp [hmem])) hnamed.ne_empty ?_
    (Path.isAbsolute_append hnamed.ne_empty _).symm
  rw [String.utf8ByteSize_append] at hlength
  omega

/-! ### Places -/

/-- A path leads to a place, and not through too many links. -/
def LeadsTo (s : FileSystem) (creating : Bool) (path : String) (place : Place) : Prop :=
  ∃ start n, s.start path = .ok start ∧ n ≤ linkLimit ∧
    s.tree.Leads creating start (Path.steps path) n place

/-- A path is found where it leads. -/
theorem locate_eq_ok_iff : s.locate creating path = .ok place ↔ s.LeadsTo creating path place := by
  rw [locate, LeadsTo]
  cases hstart : s.start path with
  | error fault =>
    refine ⟨nofun, ?_⟩
    rintro ⟨start, n, h, -⟩
    exact nomatch h
  | ok start =>
    refine FileTree.walk_eq_ok_iff.trans ⟨fun ⟨n, hn, h⟩ => ⟨start, n, rfl, hn, h⟩, ?_⟩
    rintro ⟨start', n, h, hn, hleads⟩
    obtain rfl := Except.ok.inj h
    exact ⟨n, hn, hleads⟩

/-- A path leads to no more than one place. -/
theorem LeadsTo.unique (h : s.LeadsTo creating path p) (h' : s.LeadsTo creating path q) : p = q :=
  Except.ok.inj ((locate_eq_ok_iff.mpr h).symm.trans (locate_eq_ok_iff.mpr h'))

/-! ### Files and folders -/

/-- A path leads to a file with these contents. -/
def IsFile (s : FileSystem) (path : String) (contents : Bytes) : Prop :=
  ∃ place, s.LeadsTo false path place ∧ s.tree.get? place = some (.file contents)

/-- A path leads to a folder. -/
def IsFolder (s : FileSystem) (path : String) : Prop :=
  ∃ place, s.LeadsTo false path place ∧ s.tree.get? place = some .folder

/-- A file is read where there is one, and nothing else is. -/
theorem contents_eq_ok_iff : s.contents path = .ok contents ↔ s.IsFile path contents := by
  rw [FileSystem.contents, IsFile]
  simp only [← locate_eq_ok_iff]
  cases s.locate false path with
  | error fault => exact ⟨nofun, fun ⟨_, h, _⟩ => nomatch h⟩
  | ok place =>
    dsimp only [bind, Except.bind]
    constructor
    · intro h
      split at h
      · rename_i hfound
        obtain rfl := Except.ok.inj h
        exact ⟨place, rfl, hfound⟩
      · cases h
      · cases h
    · rintro ⟨place', h, hfound⟩
      obtain rfl := Except.ok.inj h
      rewrite [hfound]
      rfl

/-- A file is seen where there is one. -/
theorem hasFile_iff : s.hasFile path = true ↔ ∃ contents, s.IsFile path contents := by
  simp only [IsFile, ← locate_eq_ok_iff]
  rw [hasFile]
  cases s.locate false path with
  | error fault => exact ⟨nofun, fun ⟨_, _, h, _⟩ => nomatch h⟩
  | ok place =>
    constructor
    · intro h
      dsimp only at h
      split at h
      · rename_i contents hfound
        exact ⟨contents, place, rfl, hfound⟩
      · exact nomatch h
    · rintro ⟨contents, place', h, hfound⟩
      obtain rfl := Except.ok.inj h
      simp only [hfound]

/-- A folder is seen where there is one. -/
theorem hasFolder_iff : s.hasFolder path = true ↔ s.IsFolder path := by
  simp only [IsFolder, ← locate_eq_ok_iff]
  rw [hasFolder]
  cases s.locate false path with
  | error fault => exact ⟨nofun, fun ⟨_, h, _⟩ => nomatch h⟩
  | ok place =>
    refine FileTree.isFolder_iff.trans ⟨fun h => ⟨place, rfl, h⟩, ?_⟩
    rintro ⟨place', h, hfound⟩
    obtain rfl := Except.ok.inj h
    exact hfound

/-! ### Growing -/

/-- A file system in which files and folders are added, and files get other contents. -/
structure Grows (s s' : FileSystem) : Prop where
  current : s'.current = s.current
  tree : s.tree.Grows s'.tree

namespace Grows

theorem refl (s : FileSystem) : Grows s s := ⟨rfl, .refl _⟩

theorem trans (h : Grows s s') (h' : Grows s' s'') : Grows s s'' :=
  ⟨h'.current.trans h.current, h.tree.trans h'.tree⟩

end Grows

theorem LeadsTo.grows (h : s.LeadsTo creating path place) (hgrows : Grows s s') :
    s'.LeadsTo creating path place := by
  obtain ⟨start, n, hstart, hn, hleads⟩ := h
  exact ⟨start, n, (start_congr hgrows.current path).trans hstart, hn, hleads.grows hgrows.tree⟩

theorem IsFolder.grows (h : s.IsFolder path) (hgrows : Grows s s') : s'.IsFolder path := by
  obtain ⟨place, hleads, hfolder⟩ := h
  exact ⟨place, hleads.grows hgrows, hgrows.tree.folder _ hfolder⟩

end ReleaseArtifacts.FileSystem
