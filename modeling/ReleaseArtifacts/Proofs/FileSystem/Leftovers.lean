import ReleaseArtifacts.Proofs.Failing
import ReleaseArtifacts.Proofs.FileSystem.Descending
import ReleaseArtifacts.Proofs.FileSystem.Overwriting

namespace ReleaseArtifacts

/-!
# What a failed write leaves

Writing a file can fail at any of its folders, or at the file itself when the folders are made
already; links and dots may lead any of these steps elsewhere.  What was there before stays in all
cases, since nothing but folders was made by then.

* `FileTree.AddsFolders.get?_append` — there are only folders in what was added.
* `FileSystem.write_eq_error` — a failed write does nothing but add folders.
* `Repository.write_failure` — what is left and what is reported, for a file of a repository.
-/

/-- There are only folders in what was added. -/
theorem FileTree.AddsFolders.get?_append {t t' : FileTree} (h : t.AddsFolders t') {place : Place}
    (hmissing : t.get? place = none) (inner : Place) :
    t'.get? (inner ++ place) = none ∨ t'.get? (inner ++ place) = some .folder := by
  have hnone := (isOpen_append_of_missing hmissing inner).1
  rcases h (inner ++ place) with hsame | ⟨-, hadded⟩
  · exact .inl (hsame.trans hnone)
  · exact .inr hadded

/-- **A failed write** does nothing but add folders, each of them where the path of a folder of the
    file leads. -/
theorem FileSystem.write_eq_error {s s' : FileSystem} {path : String} {contents : Bytes}
    {fault : PathFault} (h : s.write path contents = (s', .error fault)) :
    s.AddsAlong (Path.folders path) s' := by
  have hadds := makeFolders_adds s (Path.folders path)
  rw [write] at h
  split at h
  · rename_i hmade
    rw [hmade] at hadds
    obtain rfl := (Prod.mk.inj h).1
    exact hadds
  · -- The file comes last, so there is nothing but folders when it fails.
    rename_i hmade
    rw [hmade] at hadds
    split at h
    · cases h
    · obtain rfl := (Prod.mk.inj h).1
      exact hadds

open FileTree (get?_put_of)

variable {s s' : FileSystem} {r : Repository} {path : String} {contents : Bytes} {fault : Fault}

/-- **A failed write destroys nothing.**  The path of the file is reported, and everything is where
    it was.  What was added are folders that the file was to be in, with nothing but folders in
    them. -/
theorem Repository.write_failure
    (h : runOn (r.write path contents : ExceptT Fault (StateM FileSystem) Unit) s =
      (.error fault, s')) :
    (∃ cause, fault = .writeFailed (r.resolve path) cause) ∧
    s'.current = s.current ∧
    (∀ p entry, s.tree.get? p = some entry → s'.tree.get? p = some entry) ∧
    ∀ p, s.tree.get? p = none → (s'.tree.get? p).isSome →
      s'.tree.get? p = some .folder ∧
      (∃ folder ∈ Path.folders (r.resolve path), s'.LeadsTo false folder p) ∧
      ∀ inner entry, s'.tree.get? (inner ++ p) = some entry → entry = .folder := by
  rw [runOn_write] at h
  split at h
  · exact nomatch (Prod.mk.inj h).1
  · rename_i s₁ cause hwrite
    obtain ⟨hfault, rfl⟩ := Prod.mk.inj h
    have hadds := FileSystem.write_eq_error hwrite
    refine ⟨⟨_, (Except.error.inj hfault).symm⟩, hadds.current,
      fun p entry hfound => hadds.tree.get?_eq hfound, fun p hmissing hnow => ?_⟩
    have hinside := hadds.tree.get?_append hmissing
    have hfolder : s₁.tree.get? p = some .folder :=
      (hinside []).resolve_left (Option.isSome_iff_ne_none.mp hnow)
    refine ⟨hfolder, (hadds.along p).resolve_left fun hsame => ?_, fun inner entry hentry => ?_⟩
    · exact absurd (hfolder.symm.trans (hsame.trans hmissing)) (by simp)
    · rcases hinside inner with hnone | hinner
      · exact absurd (hnone.symm.trans hentry) (by simp)
      · exact Option.some.inj (hentry.symm.trans hinner)

/-- A file system with a folder beside the link. -/
def danglingSystemWithFolder : FileSystem :=
  { danglingSystem with tree := danglingSystem.tree.put "a" [] .folder }

theorem get?_danglingSystemWithFolder (p : Place) : danglingSystemWithFolder.tree.get? p =
    if p = ["a"] then some .folder else if p = ["icon.png"] then some (.link "latest.png")
    else if p = [] then some .folder else none :=
  get?_put_of get?_danglingSystem _ (by decide) (by decide) p

theorem makeFolder_danglingSystem :
    danglingSystem.makeFolder "/a" = .ok danglingSystemWithFolder := by
  have hnamed : FileSystem.namedSteps "/a" = [.down "a"] := by decide
  have hfree : danglingSystem.tree.get? ["a"] = none := (get?_danglingSystem _).trans (by decide)
  rw [FileSystem.makeFolder,
    FileSystem.vacancy_eq (show danglingSystem.start "/a" = .ok [] from rfl), hnamed]
  dsimp only [List.dropLast, List.getLast?_singleton]
  rw [FileTree.walk]
  dsimp only
  rw [FileSystem.vacancyIn, if_pos (FileTree.isFolder_iff.mpr rfl), if_neg (by decide), hfree]
  rfl

theorem store_danglingSystemWithFolder (contents : Bytes) :
    danglingSystemWithFolder.store "/a/b/" contents = .error .isFolder := by
  have hsteps : Path.steps "/a/b/" = [.down "a", .down "b", .slash] := by decide
  have hfound : danglingSystemWithFolder.tree.get? ["a"] = some .folder :=
    (get?_danglingSystemWithFolder _).trans (by decide)
  rw [FileSystem.store, FileSystem.locate,
    show danglingSystemWithFolder.start "/a/b/" = .ok [] from rfl, ok_bind, hsteps,
    FileTree.walk_down_plain _ rfl (by decide) (by simp) hfound (by simp), FileTree.walk,
    if_pos (FileTree.isFolder_iff.mpr hfound)]
  rfl

/-- A slash after the name of a file: its folder is made by the time the file is refused. -/
theorem Repository.write_failure_of_slash : ∃ s' cause,
    runOn (Repository.write ⟨"/"⟩ "a/b/" [] : ExceptT Fault (StateM FileSystem) Unit)
      danglingSystem = (.error (.writeFailed "/a/b/" cause), s') ∧
    s'.tree.get? ["icon.png"] = some (.link "latest.png") ∧
    s'.tree.get? ["a"] = some .folder ∧
    ∀ inner entry, s'.tree.get? (inner ++ ["a"]) = some entry → entry = .folder := by
  have hresolve : Repository.resolve ⟨"/"⟩ "a/b/" = "/a/b/" := by decide
  have hfolders : Path.folders "/a/b/" = ["/a"] := by decide
  have hwrite : danglingSystem.write "/a/b/" [] = (danglingSystemWithFolder, .error .isFolder) := by
    rw [FileSystem.write, hfolders, FileSystem.makeFolders, makeFolder_danglingSystem]
    dsimp only
    rw [store_danglingSystemWithFolder]
  have hrun : runOn (Repository.write ⟨"/"⟩ "a/b/" [] : ExceptT Fault (StateM FileSystem) Unit)
      danglingSystem = (.error (.writeFailed "/a/b/" (.system 21)), danglingSystemWithFolder) := by
    rw [Repository.runOn_write, hresolve, hwrite]
    rfl
  obtain ⟨-, -, hkept, hadded⟩ := Repository.write_failure hrun
  have hmade : danglingSystemWithFolder.tree.get? ["a"] = some .folder :=
    (get?_danglingSystemWithFolder _).trans (by decide)
  obtain ⟨hfolder, -, hinside⟩ := hadded ["a"] ((get?_danglingSystem _).trans (by decide))
    (by rw [hmade]; rfl)
  exact ⟨_, _, hrun, hkept _ _ ((get?_danglingSystem _).trans (by decide)), hfolder, hinside⟩

end ReleaseArtifacts
