import ReleaseArtifacts.Proofs.FileSystem.Writing

namespace ReleaseArtifacts.FileSystem

/-!
# Writing files again

Several files are written one after the other, whatever their paths have to do with each other: two
of them may lead to the same file.

* `WritesAll` — files are written one after the other, and each of them successfully.
* `Between` — a file system that has what will be there at the end, or at some places still what is
  there now.
* `WritesAll.again` — writing from there leads to the same end.
-/

variable {s s' u : FileSystem} {files : List (String × Bytes)} {place : Place}

/-- Files are written one after the other, and each of them successfully. -/
inductive WritesAll : FileSystem → List (String × Bytes) → FileSystem → Prop
  | nil (s : FileSystem) : WritesAll s [] s
  | cons {s s' s'' : FileSystem} {path : String} {contents : Bytes} {files : List (String × Bytes)}
      (first : s.write path contents = (s', .ok ())) (rest : WritesAll s' files s'') :
      WritesAll s ((path, contents) :: files) s''

theorem WritesAll.grows (h : WritesAll s files s') : s.Grows s' := by
  induction h with
  | nil s => exact .refl s
  | cons first _ ih =>
    obtain ⟨_, -, hgrows, -⟩ := write_eq_ok first
    exact hgrows.trans ih

/-- A file that can be written again can be written any number of times. -/
theorem Ready.exists_writesAll {path : String} (h : s.Ready path place) (versions : List Bytes) :
    ∃ s', s.WritesAll (versions.map (path, ·)) s' ∧
      ∀ p, p ≠ place → s'.tree.get? p = s.tree.get? p := by
  induction versions generalizing s with
  | nil => exact ⟨s, .nil s, fun _ _ => rfl⟩
  | cons contents versions ih =>
    obtain ⟨s₁, hwrite, hstores, hgrows⟩ := h.write contents
    obtain ⟨s', hwrites, hkept⟩ := ih (h.grows hgrows)
    refine ⟨s', .cons hwrite hwrites, fun p hp => ?_⟩
    rw [hkept p hp, hstores.get?, if_neg hp]

/-- A file system that has what will be there at the end (`s'`), or at some places a file that is
    there now (`s`). -/
structure Between (s u s' : FileSystem) : Prop where
  current : u.current = s.current
  get? : ∀ place, u.tree.get? place = s'.tree.get? place ∨
    ∃ contents, s.tree.get? place = some (.file contents) ∧
      u.tree.get? place = some (.file contents)

namespace Between

/-- It differs from the end in the contents of files. -/
theorem grows (h : Between s u s') (hgrows : s.Grows s') : s'.Grows u := by
  refine ⟨h.current.trans hgrows.current.symm, ⟨?_, ?_, ?_⟩⟩
  · intro place hfolder
    rcases h.get? place with hend | ⟨contents, hnow, -⟩
    · exact hend.trans hfolder
    · obtain ⟨contents', hfile⟩ := hgrows.tree.file place contents hnow
      exact absurd (hfolder.symm.trans hfile) (by simp)
  · intro place contents hfile
    rcases h.get? place with hend | ⟨contents', -, hu⟩
    · exact ⟨contents, hend.trans hfile⟩
    · exact ⟨contents', hu⟩
  · intro place target
    rcases h.get? place with hend | ⟨contents, hnow, hu⟩
    · rw [hend]
    · obtain ⟨contents', hfile⟩ := hgrows.tree.file place contents hnow
      rw [hfile, hu]
      simp

/-- At the end there is nothing between. -/
theorem eq_of_refl (h : Between s u s) : u = s := by
  refine ext_get? h.current fun place => ?_
  rcases h.get? place with hend | ⟨contents, hnow, hu⟩
  · exact hend
  · exact hu.trans hnow.symm

end Between

/-- **Writing leads to the same end again.**  Wherever files were written one after the other,
    writing them once more, with some places as they are at the end already, leaves what there was
    at the end. -/
theorem WritesAll.again (h : WritesAll s files s') (hbetween : Between s u s') :
    WritesAll u files s' := by
  -- What is between now and the end before a file is written is between then and the end after it.
  induction h generalizing u with
  | nil s =>
    rw [hbetween.eq_of_refl]
    exact .nil s
  | @cons s₀ s₁ s' path contents files first rest ih =>
    obtain ⟨place, hready, hgrows, hplace, hkept⟩ := write_eq_ok first
    have hu : s'.Grows u := hbetween.grows (hgrows.trans rest.grows)
    obtain ⟨u', hwrite, hstores, -⟩ := (hready.grows (rest.grows.trans hu)).write contents
    refine .cons hwrite (ih ⟨?_, fun p => ?_⟩)
    · rw [hstores.current, hbetween.current, hgrows.current]
    · rw [hstores.get?]
      by_cases hp : p = place
      · -- Another file may be written there later, so it need not be what is there at the end.
        rw [if_pos hp]
        exact .inr ⟨contents, hp ▸ hplace, rfl⟩
      · rw [if_neg hp]
        rcases hbetween.get? p with hend | ⟨old, hnow, hold⟩
        · exact .inl hend
        · exact .inr ⟨old, hkept p old hp hnow, hold⟩

/-- What was written can be written again, and nothing changes by that. -/
theorem WritesAll.idempotent (h : WritesAll s files s') : WritesAll s' files s' :=
  h.again ⟨h.grows.current, fun _ => .inl rfl⟩

end ReleaseArtifacts.FileSystem
