import ReleaseArtifacts.Proofs.FileSystem.Tasks

namespace ReleaseArtifacts

/-!
# Looking for files

Whether there is a file is told without opening it, and a file is read without looking for it first.
Both follow the path on their own, and they agree.

* `FileTree.Leads.isSome` — steps that lead anywhere lead to something that is there.
* `FileTree.walk_ne_isFolder` — only what creates files finds folders in its way.
* `FileSystem.LeadsTo.lands` — a path that leads anywhere leads to a file or to a folder.
* `FileSystem.contents_eq_error_iff` — why something cannot be read.
* `Repository.hasFile_agrees` — what is seen as a file can be read, and nothing else can.
-/

/-! ### Steps -/

namespace FileTree

open ReleaseArtifacts.Path (Step)

variable {t : FileTree} {place q : Place} {steps : List Step} {n : Nat}

/-- Steps that lead anywhere lead to something that is there, unless a file is to be created. -/
theorem Leads.isSome (h : t.Leads false place steps n q) (hplace : (t.get? place).isSome) :
    (t.get? q).isSome := by
  induction h with
  | here => exact hplace
  | move folder moves _ ih => exact ih (by rw [get?_of_unnamed folder moves]; rfl)
  | fresh _ _ creates => exact absurd creates Bool.false_ne_true
  | down _ _ _ found _ _ ih => exact ih (by rw [found]; rfl)
  | link folder _ _ _ _ ih => exact ih (by rw [get?_startOf _ folder]; rfl)

/-- **Folders are in the way of new files only.** -/
theorem walk_ne_isFolder (links : Nat) (place : Place) (steps : List Step) :
    t.walk false links place steps ≠ .error .isFolder := by
  -- A name with a slash after it is refused in the fifth case, which only a new file reaches.
  fun_induction walk t false links place steps with
  | case1 | case6 | case7 | case8 | case9 | case12 => simp
  | case2 _ _ _ _ ih => exact ih
  | case3 _ _ _ _ ih => exact ih
  | case4 _ _ _ _ ih => exact ih
  | case5 _ _ _ _ _ hcreates => exact absurd hcreates.1 Bool.false_ne_true
  | case10 _ _ _ _ _ _ _ _ _ _ ih => exact ih
  | case11 _ _ _ _ _ _ _ _ _ _ ih => exact ih

end FileTree

/-! ### Paths -/

namespace FileSystem

variable {s : FileSystem} {path : String} {place : Place} {fault : PathFault}

/-- A path that leads anywhere leads to a file or to a folder, never to a link. -/
theorem LeadsTo.lands (h : s.LeadsTo false path place) :
    (∃ contents, s.tree.get? place = some (.file contents)) ∨
      s.tree.get? place = some .folder := by
  obtain ⟨start, n, -, -, hleads⟩ := h
  have hstart := hleads.folder_of_ne_nil (Path.steps_ne_nil path)
  have hfound := hleads.isSome (by rw [hstart]; rfl)
  rcases hleads.lands hstart with ⟨entry, hentry, hplain⟩ | ⟨hnone, -⟩
  · cases entry with
    | file contents => exact .inl ⟨contents, hentry⟩
    | folder => exact .inr hentry
    | link target => exact absurd rfl (hplain target)
  · exact absurd hfound (by simp [hnone])

/-- Nothing is both a file and a folder. -/
theorem IsFile.not_isFolder {contents : Bytes} (h : s.IsFile path contents) :
    ¬ s.IsFolder path := by
  rintro ⟨place', hleads', hfolder⟩
  obtain ⟨place, hleads, hfile⟩ := h
  obtain rfl := hleads.unique hleads'
  exact absurd (hfile.symm.trans hfolder) (by simp)

theorem start_ne_isFolder (s : FileSystem) (path : String) :
    s.start path ≠ .error .isFolder := by
  unfold start
  repeat' split
  all_goals simp

theorem locate_ne_isFolder (s : FileSystem) (path : String) :
    s.locate false path ≠ .error .isFolder := by
  rw [locate]
  cases hstart : s.start path with
  | error fault => exact fun h => start_ne_isFolder s path (hstart.trans h)
  | ok start => exact FileTree.walk_ne_isFolder _ _ _

/-- **What cannot be read:** a folder, and what is not found. -/
theorem contents_eq_error_iff :
    s.contents path = .error fault ↔
      (s.IsFolder path ∧ fault = .isFolder) ∨ s.locate false path = .error fault := by
  cases hlocate : s.locate false path with
  | error cause =>
    have hnowhere : ¬ s.IsFolder path := by
      rintro ⟨place, hleads, -⟩
      cases hlocate.symm.trans (locate_eq_ok_iff.mpr hleads)
    have hcontents : s.contents path = .error cause := by
      rw [contents, hlocate]
      rfl
    rw [hcontents, or_iff_right fun h => hnowhere h.1, Except.error.injEq, Except.error.injEq]
  | ok place =>
    have hleads := locate_eq_ok_iff.mp hlocate
    rw [or_iff_left (by simp)]
    rcases hleads.lands with ⟨found, hfile⟩ | hfolder
    · have hisFile : s.IsFile path found := ⟨place, hleads, hfile⟩
      rw [contents_eq_ok_iff.mpr hisFile]
      exact iff_of_false (by simp) fun h => hisFile.not_isFolder h.1
    · have hcontents : s.contents path = .error .isFolder := by
        rw [contents, hlocate]
        dsimp only [bind, Except.bind]
        rewrite [hfolder]
        rfl
      rw [hcontents]
      constructor
      · intro h
        exact ⟨⟨place, hleads, hfolder⟩, (Except.error.inj h).symm⟩
      · rintro ⟨-, rfl⟩
        rfl

end FileSystem

/-! ### Repositories -/

namespace Repository

variable {r : Repository} {path : String} {s : FileSystem}

/-- What reading gives is what the file has that the path leads to. -/
theorem fst_runOn_read_eq_ok_iff {contents : Bytes} :
    (runOn (r.read path) s).1 = .ok contents ↔ s.IsFile (r.resolve path) contents := by
  rw [← runOn_read_eq_ok_iff, runOn_read, Prod.mk.injEq, and_iff_left rfl]

/-- What reading reports is the fault of the path. -/
theorem fst_runOn_read_eq_error_iff {fault : Fault} :
    (runOn (r.read path) s).1 = .error fault ↔
      ∃ cause, s.contents (r.resolve path) = .error cause ∧ fault = .io cause.toIoFault := by
  rw [runOn_read]
  cases s.contents (r.resolve path) with
  | error cause => simp [Except.mapError, eq_comm]
  | ok contents => simp [Except.mapError]

/-- **What is seen as a file can be read, and nothing else can.**  Looking for a file and reading it
    agree on every path, whatever links are on the way, and change nothing.  Both find the file that
    the path leads to.  Otherwise reading reports that there is a folder, if that is where the path
    leads, or why it leads nowhere. -/
theorem hasFile_agrees (r : Repository) (path : String) (s : FileSystem) :
    ∃ seen outcome, Id.run (StateT.run (r.hasFile path) s) = (seen, s) ∧
      runOn (r.read path) s = (outcome, s) ∧
      (seen = true ↔ ∃ contents, outcome = .ok contents) ∧
      (∀ contents, outcome = .ok contents ↔ s.IsFile (r.resolve path) contents) ∧
      ∀ fault, outcome = .error fault ↔ ∃ cause : PathFault, fault = .io cause.toIoFault ∧
        (s.IsFolder (r.resolve path) ∧ cause = .isFolder ∨
          s.locate false (r.resolve path) = .error cause ∧ cause ≠ .isFolder) := by
  refine ⟨s.hasFile (r.resolve path), (runOn (r.read path) s).1, rfl, rfl, ?_,
    fun contents => fst_runOn_read_eq_ok_iff, fun fault => ?_⟩
  · simp only [FileSystem.hasFile_iff, fst_runOn_read_eq_ok_iff]
  · rw [fst_runOn_read_eq_error_iff]
    apply exists_congr
    intro cause
    rw [FileSystem.contents_eq_error_iff, and_comm]
    -- A path that leads nowhere is never reported as a folder, so that the two cases are apart.
    have hother : s.locate false (r.resolve path) = .error cause → cause ≠ .isFolder := by
      rintro hlocate rfl
      exact FileSystem.locate_ne_isFolder s _ hlocate
    rw [and_iff_left_of_imp hother]

end Repository

end ReleaseArtifacts
