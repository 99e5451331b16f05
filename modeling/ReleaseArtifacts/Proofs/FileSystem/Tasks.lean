import ReleaseArtifacts.Repository
import ReleaseArtifacts.Proofs.FileSystem.Writing

namespace ReleaseArtifacts

/-!
# Tasks on file systems

* `runOn` — what comes out of a task, and the file system that it leaves.
* `runOn_bind` — one step after another; the first fault ends a task.
* `Repository.runOn_read`, `Repository.runOn_write` — the steps that use files, with
  `Repository.runOn_read_eq_ok_iff` and `Repository.runOn_write_eq_ok_iff` for when they succeed.
-/

variable {ε α β : Type} {s : FileSystem}

/-- What comes out of a task, and the file system that it leaves. -/
def runOn (task : ExceptT ε (StateM FileSystem) α) (s : FileSystem) : Except ε α × FileSystem :=
  Id.run (StateT.run task.run s)

@[simp] theorem runOn_pure (a : α) :
    runOn (pure a : ExceptT ε (StateM FileSystem) α) s = (.ok a, s) := rfl

/-- A step that does not look at the file system. -/
theorem runOn_mk_pure (step : Except ε α) :
    runOn (ExceptT.mk (pure step) : ExceptT ε (StateM FileSystem) α) s = (step, s) := rfl

/-- One step after another.  The first fault ends a task. -/
theorem runOn_bind (x : ExceptT ε (StateM FileSystem) α) (f : α → ExceptT ε (StateM FileSystem) β)
    (s : FileSystem) :
    runOn (x >>= f) s =
      match runOn x s with
      | (.ok a, s') => runOn (f a) s'
      | (.error e, s') => (.error e, s') := by
  show Id.run (StateT.run (x.run >>= ExceptT.bindCont f) s) = _
  rw [StateT.run_bind]
  show Id.run (StateT.run (ExceptT.bindCont f (runOn x s).1) (runOn x s).2) = _
  rcases runOn x s with ⟨a | e, s'⟩ <;> rfl

namespace Repository

variable (r : Repository) (path : String)

/-- Looking for a file changes nothing. -/
theorem runOn_hasFile :
    runOn (liftM (r.hasFile path : StateM FileSystem Bool) : ExceptT ε (StateM FileSystem) Bool) s =
      (.ok (s.hasFile (r.resolve path)), s) := rfl

/-- Neither does reading one. -/
theorem runOn_read :
    runOn (r.read path : ExceptT Fault (StateM FileSystem) Bytes) s =
      (((s.contents (r.resolve path)).mapError PathFault.toIoFault).mapError .io, s) := rfl

/-- A file is read where its path leads to one. -/
theorem runOn_read_eq_ok_iff {contents : Bytes} :
    runOn (r.read path : ExceptT Fault (StateM FileSystem) Bytes) s = (.ok contents, s) ↔
      s.IsFile (r.resolve path) contents := by
  rw [runOn_read, ← FileSystem.contents_eq_ok_iff]
  cases s.contents (r.resolve path) with
  | error cause => exact ⟨fun h => (nomatch (Prod.mk.inj h).1), nofun⟩
  | ok found =>
    refine ⟨fun h => ?_, fun h => ?_⟩
    · obtain rfl := Except.ok.inj (Prod.mk.inj h).1
      rfl
    · obtain rfl := Except.ok.inj h
      rfl

/-- Writing a file reports its path if it fails. -/
theorem runOn_write (contents : Bytes) :
    runOn (r.write path contents : ExceptT Fault (StateM FileSystem) Unit) s =
      match s.write (r.resolve path) contents with
      | (s', .ok ()) => (.ok (), s')
      | (s', .error cause) => (.error (.writeFailed (r.resolve path) cause.toIoFault), s') := by
  show (((s.write (r.resolve path) contents).2.mapError _).mapError _,
    (s.write (r.resolve path) contents).1) = _
  rcases s.write (r.resolve path) contents with ⟨s', cause | ⟨⟩⟩ <;> rfl

theorem runOn_write_eq_ok_iff {contents : Bytes} {s' : FileSystem} :
    runOn (r.write path contents : ExceptT Fault (StateM FileSystem) Unit) s = (.ok (), s') ↔
      s.write (r.resolve path) contents = (s', .ok ()) := by
  rw [runOn_write]
  rcases s.write (r.resolve path) contents with ⟨s₁, cause | ⟨⟩⟩
  · exact ⟨fun h => (nomatch (Prod.mk.inj h).1), fun h => nomatch (Prod.mk.inj h).2⟩
  · refine ⟨fun h => ?_, fun h => ?_⟩
    · rw [(Prod.mk.inj h).2]
    · rw [(Prod.mk.inj h).1]

end Repository

end ReleaseArtifacts
