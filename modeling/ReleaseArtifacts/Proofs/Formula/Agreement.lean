import ReleaseArtifacts.Proofs.FileSystem.Overwriting
import ReleaseArtifacts.Proofs.Formula.Rendering
import ReleaseArtifacts.Proofs.Formula.Writing

namespace ReleaseArtifacts.Formula

/-!
# Ways to the formula of a release

The formula of a release of the application can be asked for as a text, written into a repository,
or written into the one in the current folder.

* `text_eq` — there is one for every release.
* `runOn_write`, `runOn_writeHere` — what writing it does.
* `write_agrees` — the ways agree.
-/

variable {s : FileSystem} {root output : String} {release : Release}

/-- The profile of the application is the record. -/
theorem packageProfile_eq : packageProfile = .ok Profile.application := by
  rw [packageProfile, Profile.package, Profile.parse_packageText]
  rfl

/-- **Every release has a formula**, whatever its texts are. -/
theorem text_eq (release : Release) :
    text release = .ok (formulaText Profile.application release) := by
  have hwidth : Profile.application.columnWidth ≤ Template.widestPadding := by decide
  rw [text, packageProfile_eq, ok_bind]
  exact rendered_of_width Profile.application release hwidth

section Tasks

variable {m : Type → Type} [Monad m] [LawfulMonad m] [Storage m]

/-- All that writing it does is that its text is written. -/
theorem write_eq (r : Repository) (release : Release) (output : String) :
    (write r release output : ExceptT Breakdown m String) = do
      let formula ← settled (text release)
      reporting (r.writeText output formula)
      return r.resolve output := by
  rw [text, settled_bind, bind_assoc]
  simp only [settled_bind, bind_assoc]
  rfl

end Tasks

/-! ### On a file system -/

/-- **Writing the formula of a release** is writing a file, and gives its path. -/
theorem runOn_write (r : Repository) (release : Release) (output : String) (s : FileSystem) :
    runOn (write r release output) s =
      match s.write (r.resolve output)
        (formulaText Profile.application release).toUTF8.toList with
      | (s', .ok ()) => (.ok (r.resolve output), s')
      | (s', .error cause) =>
        (.error (.fault (.writeFailed (r.resolve output) cause.toIoFault)), s') := by
  rw [write_eq, text_eq, settled_ok_bind, runOn_bind, runOn_reporting, Repository.writeText,
    Repository.runOn_write]
  rcases s.write (r.resolve output) _ with ⟨s', cause | ⟨⟩⟩ <;> rfl

/-- Writing it in the current folder is writing it there, as long as there is one. -/
theorem runOn_writeHere (release : Release) (output : String) (s : FileSystem) :
    runOn (writeHere release output) s =
      match s.currentPath with
      | .ok here => runOn (write ⟨here⟩ release output) s
      | .error cause => (.error (.fault (.io cause.toIoFault)), s) := by
  have hcurrent : runOn (reporting (Repository.current : ExceptT Fault (StateM FileSystem) _)) s =
      ((((s.currentPath.mapError PathFault.toIoFault).map Repository.mk).mapError .io).mapError
        .fault, s) := rfl
  rw [writeHere, runOn_bind, hcurrent]
  cases s.currentPath <;> rfl

/-- **The ways to the formula of a release agree.**  It has a text, whatever the texts of the
    release are.  Written into a repository it is found at its path, or the fault is that this path
    could not be written; no other fault comes up.  An absolute path does not depend on the
    repository.  In the current folder the same happens as in the repository of its path; without a
    current folder nothing happens. -/
theorem write_agrees (root : String) (release : Release) (output : String) (s : FileSystem) :
    ∃ formula, text release = .ok formula ∧
      (let result := runOn (write ⟨root⟩ release output) s
        let path := Path.join root output
        (result.1 = .ok path ∧ result.2.contents path = .ok formula.toUTF8.toList) ∨
          ∃ cause, result.1 = .error (.fault (.writeFailed path cause))) ∧
      (Path.isAbsolute output = true → ∀ root',
        runOn (write ⟨root'⟩ release output) s = runOn (write ⟨root⟩ release output) s) ∧
      (∀ here, s.currentPath = .ok here →
        runOn (writeHere release output) s = runOn (write ⟨here⟩ release output) s) ∧
      ∀ cause, s.currentPath = .error cause →
        runOn (writeHere release output) s = (.error (.fault (.io cause.toIoFault)), s) := by
  refine ⟨_, text_eq release, ?_, fun habsolute root' => ?_, fun here hhere => ?_,
    fun cause hcause => ?_⟩
  · dsimp only
    rw [runOn_write]
    rcases hwrite : s.write (Repository.resolve ⟨root⟩ output)
      (formulaText Profile.application release).toUTF8.toList with ⟨s', cause | ⟨⟩⟩
    · exact .inr ⟨_, rfl⟩
    · obtain ⟨place, hwrites⟩ := FileSystem.exists_writes hwrite
      exact .inl ⟨rfl, FileSystem.contents_eq_ok_iff.mpr ⟨place, hwrites.leads, hwrites.file⟩⟩
  · have hresolve : ∀ root, Repository.resolve ⟨root⟩ output = output := fun root =>
      if_pos habsolute
    rw [runOn_write, runOn_write, hresolve root, hresolve root']
  · rw [runOn_writeHere, hhere]
  · rw [runOn_writeHere, hcause]

/-- There is nothing but a root folder, which is the current one; and then there is none. -/
theorem write_agrees_application :
    (Path.isAbsolute "/Formula/box.rb" = true ∧
      runOn (write ⟨"/tap"⟩ firstRelease "/Formula/box.rb") ⟨.empty, some []⟩ =
        runOn (write ⟨"/box"⟩ firstRelease "/Formula/box.rb") ⟨.empty, some []⟩) ∧
    (FileSystem.currentPath ⟨.empty, some []⟩ = .ok "/" ∧
      runOn (writeHere braceRelease "box.rb") ⟨.empty, some []⟩ =
        runOn (write ⟨"/"⟩ braceRelease "box.rb") ⟨.empty, some []⟩) ∧
    FileSystem.currentPath ⟨.empty, none⟩ = .error .missing ∧
      runOn (writeHere braceRelease "box.rb") ⟨.empty, none⟩ =
        (.error (.fault (.io (.system 2))), ⟨.empty, none⟩) := by
  obtain ⟨-, -, -, hroots, -⟩ :=
    write_agrees "/box" firstRelease "/Formula/box.rb" ⟨.empty, some []⟩
  obtain ⟨-, -, -, -, hhere, -⟩ := write_agrees "/" braceRelease "box.rb" ⟨.empty, some []⟩
  obtain ⟨-, -, -, -, -, hnowhere⟩ := write_agrees "/" braceRelease "box.rb" ⟨.empty, none⟩
  have habsolute : Path.isAbsolute "/Formula/box.rb" = true := by decide
  exact ⟨⟨habsolute, hroots habsolute "/tap"⟩, ⟨rfl, hhere "/" rfl⟩, rfl, hnowhere _ rfl⟩

end ReleaseArtifacts.Formula
