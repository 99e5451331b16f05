import ReleaseArtifacts.Proofs.FileSystem.Tasks
import ReleaseArtifacts.Proofs.FileTree.Links

namespace ReleaseArtifacts

/-!
# Reading and writing over again

What a file that was written leaves, and what is left when it is written over.

* `FileSystem.LeadsTo.isFolder_outside` — a path that leads somewhere lies in folders.
* `FileSystem.Writes` — the whole effect of writing a file.
* `FileSystem.exists_writes` — it is the effect of every write that succeeds.
* `Repository.write_laws` — what was written is read back, and the last write decides.
-/

open FileTree (SameLinks get?_empty get?_put_of)

namespace FileSystem

variable {s s' s'' prepared : FileSystem} {creating creating' : Bool} {path folder : String}
  {place p q : Place} {contents contents' : Bytes}

/-! ### Where paths lead -/

/-- Where a path leads depends on the links and the current folder alone. -/
theorem LeadsTo.eq_of_sameLinks (h : s.LeadsTo creating path p) (h' : s'.LeadsTo creating' path q)
    (hcurrent : s'.current = s.current) (hlinks : SameLinks s.tree s'.tree) : p = q := by
  obtain ⟨start, n, hstart, -, hleads⟩ := h
  obtain ⟨start', m, hstart', -, hleads'⟩ := h'
  rw [start_congr hcurrent, hstart] at hstart'
  obtain rfl := Except.ok.inj hstart'
  exact hleads.eq_of_sameLinks hleads' hlinks

/-- It goes on to lead there while files and folders are added. -/
theorem LeadsTo.eq_of_grows (h : s.LeadsTo creating path p) (h' : s'.LeadsTo creating' path q)
    (hgrows : s.Grows s') : p = q :=
  h.eq_of_sameLinks h' hgrows.current hgrows.tree.sameLinks

/-- Where a file could be created and something is already, the path leads there. -/
theorem LeadsTo.of_found (h : s.LeadsTo creating path place)
    (hfound : (s.tree.get? place).isSome) : s.LeadsTo false path place := by
  obtain ⟨start, n, hstart, hn, hleads⟩ := h
  exact ⟨start, n, hstart, hn, hleads.of_found hfound⟩

/-- **A path that leads somewhere lies in folders.**  Each of them is passed on the way. -/
theorem LeadsTo.isFolder_outside (h : s.LeadsTo false path place)
    (hfolder : folder ∈ Path.folders path) : s.IsFolder folder := by
  obtain ⟨start, n, hstart, hn, hleads⟩ := h
  have hlies := Path.liesIn_of_mem_folders hfolder
  obtain ⟨rest, hrest, hsteps⟩ := hlies.steps
  rw [hsteps] at hleads
  -- The steps of the folder come first, and there is a step after them, which needs a folder.
  obtain ⟨p, k, m, hfront, hback, hsum⟩ := hleads.exists_between
  exact ⟨p, ⟨start, k, start_of_liesIn hstart hlies, by omega, hfront⟩,
    hback.folder_of_ne_nil hrest⟩

/-! ### The effect of a write -/

/-- A file is written where its path leads, which was free or a file before.  Nothing else happens
    but that folders are added, each of them where the path of a folder of the file leads. -/
structure Writes (s : FileSystem) (path : String) (place : Place) (contents : Bytes)
    (s' : FileSystem) : Prop where
  grows : s.Grows s'
  leads : s'.LeadsTo false path place
  file : s'.tree.get? place = some (.file contents)
  before : s.tree.get? place = none ∨ ∃ old, s.tree.get? place = some (.file old)
  elsewhere : ∀ p ≠ place, s'.tree.get? p = s.tree.get? p ∨
    (s.tree.get? p = none ∧ s'.tree.get? p = some .folder ∧
      ∃ folder ∈ Path.folders path, s'.LeadsTo false folder p)

/-- Where there is a file after growing there was none before, or a file. -/
theorem Grows.before_of_file (h : s.Grows s') (hfile : s'.tree.get? place = some (.file contents)) :
    s.tree.get? place = none ∨ ∃ old, s.tree.get? place = some (.file old) := by
  cases hnow : s.tree.get? place with
  | none => exact .inl rfl
  | some entry =>
    cases entry with
    | file old => exact .inr ⟨old, rfl⟩
    | folder => exact absurd ((h.tree.folder _ hnow).symm.trans hfile) (by simp)
    | link target => exact absurd (((h.tree.link _ _).mp hnow).symm.trans hfile) (by simp)

/-- What was prepared is written. -/
theorem Prepares.writes (h : s.Prepares path place prepared)
    (hstores : prepared.Stores place contents s') (hgrows : prepared.Grows s') :
    s.Writes path place contents s' := by
  have hfile : s'.tree.get? place = some (.file contents) := by rw [hstores.get?, if_pos rfl]
  have hall : s.Grows s' := h.adds.grows.trans hgrows
  refine ⟨hall, (h.leads.grows hgrows).of_found (by rw [hfile]; rfl), hfile,
    hall.before_of_file hfile, fun p hp => ?_⟩
  rw [hstores.get?, if_neg hp]
  rcases h.adds.tree p with hsame | ⟨hnone, hadded⟩
  · exact .inl hsame
  · rcases h.adds.along p with hsame | ⟨folder, hfolder, hleads⟩
    · exact .inl hsame
    · exact .inr ⟨hnone, hadded, folder, hfolder, hleads.grows hgrows⟩

/-- Every write that succeeds has this effect. -/
theorem exists_writes (h : s.write path contents = (s', .ok ())) :
    ∃ place, s.Writes path place contents s' := by
  obtain ⟨place, prepared, hprepares, hstores, hgrows⟩ := exists_prepares h
  exact ⟨place, hprepares.writes hstores hgrows⟩

/-! ### Writing over -/

/-- What was stored before does not matter. -/
theorem Stores.over (h : s.Stores place contents s') (h' : s'.Stores place contents' s'') :
    s.Stores place contents' s'' where
  current := h'.current.trans h.current
  get? p := by
    rw [h'.get?, h.get?]
    split <;> rfl

/-- Storing leaves what it leaves. -/
theorem Stores.unique (h : s.Stores place contents s') (h' : s.Stores place contents s'') :
    s' = s'' :=
  ext_get? (h.current.trans h'.current.symm) fun p => (h.get? p).trans (h'.get? p).symm

/-- Where no folder has to be made for a file none has to be after another one was stored. -/
theorem Prepares.of_stores {place' : Place} (h : s.Prepares path place s)
    (hstores : s.Stores place' contents s') (hgrows : s.Grows s') :
    s'.Prepares path place s' := by
  refine prepares_of_isFolder (fun folder hfolder => (h.isFolder folder hfolder).grows hgrows)
    (h.leads.grows hgrows) ?_
  rw [hstores.get?]
  split
  · simp
  · exact h.noFolder

/-- **The last write decides.**  Where a file was written it can be written over, and this leaves
    what writing it once leaves. -/
theorem exists_write_over (h : s.write path contents = (s', .ok ())) (contents' : Bytes) :
    ∃ s'', s'.write path contents' = (s'', .ok ()) ∧ s.write path contents' = (s'', .ok ()) := by
  obtain ⟨place, prepared, hprepares, hstores, hgrows⟩ := exists_prepares h
  -- The folders were made by the first write, so that both ways store over the same file.
  obtain ⟨s₁, hwrite, hstores₁, -⟩ := hprepares.write contents'
  have hready : s'.Ready path place :=
    ⟨fun folder hfolder => (hprepares.isFolder folder hfolder).grows hgrows,
      hprepares.leads.grows hgrows, contents, by rw [hstores.get?, if_pos rfl]⟩
  obtain ⟨s₂, hwrite₂, hstores₂, -⟩ := hready.write contents'
  obtain rfl := (hstores.over hstores₂).unique hstores₁
  exact ⟨s₂, hwrite₂, hwrite⟩

end FileSystem

/-! ### In a repository -/

variable {s s' : FileSystem} {r : Repository} {path : String} {contents : Bytes}

/-- **Laws of writing.**  If writing a file succeeds then its contents are read back and the file is
    seen.  It is where the path leads, also where the path led to something before; everything else
    stays as it was, except that folders are added for it.  Writing it over succeeds as well, and
    leaves what writing the new contents alone would have left. -/
theorem Repository.write_laws
    (h : runOn (r.write path contents : ExceptT Fault (StateM FileSystem) Unit) s = (.ok (), s')) :
    runOn (r.read path : ExceptT Fault (StateM FileSystem) Bytes) s' = (.ok contents, s') ∧
    StateT.run (r.hasFile path : StateM FileSystem Bool) s' = (true, s') ∧
    (∃ place, s.Writes (r.resolve path) place contents s' ∧
      ∀ q, s.LeadsTo false (r.resolve path) q → q = place) ∧
    ∀ contents', ∃ s'',
      runOn (r.write path contents' : ExceptT Fault (StateM FileSystem) Unit) s' = (.ok (), s'') ∧
      runOn (r.write path contents' : ExceptT Fault (StateM FileSystem) Unit) s =
        (.ok (), s'') := by
  have hwrite := (runOn_write_eq_ok_iff r path).mp h
  obtain ⟨place, hwrites⟩ := FileSystem.exists_writes hwrite
  have hfile : s'.IsFile (r.resolve path) contents := ⟨place, hwrites.leads, hwrites.file⟩
  refine ⟨(runOn_read_eq_ok_iff r path).mpr hfile, ?_,
    ⟨place, hwrites, fun q hq => hq.eq_of_grows hwrites.leads hwrites.grows⟩, fun contents' => ?_⟩
  · exact congrArg (·, s') (FileSystem.hasFile_iff.mpr ⟨contents, hfile⟩)
  · obtain ⟨s'', hover, halone⟩ := FileSystem.exists_write_over hwrite contents'
    exact ⟨s'', (runOn_write_eq_ok_iff r path).mpr hover, (runOn_write_eq_ok_iff r path).mpr halone⟩

/-- A file system with a link to a file that is not there. -/
def danglingSystem : FileSystem where
  tree := FileTree.empty.put "icon.png" [] (.link "latest.png")
  current := none

theorem get?_danglingSystem (p : Place) : danglingSystem.tree.get? p =
    if p = ["icon.png"] then some (.link "latest.png")
    else if p = [] then some .folder else none :=
  get?_put_of get?_empty _ (by decide) (by decide) p

/-- A file can be created through the link. -/
theorem prepares_dangling :
    danglingSystem.Prepares "/icon.png" ["latest.png"] danglingSystem := by
  have hlink : danglingSystem.tree.get? ["icon.png"] = some (.link "latest.png") :=
    (get?_danglingSystem _).trans (by decide)
  have hfree : danglingSystem.tree.get? ["latest.png"] = none :=
    (get?_danglingSystem _).trans (by decide)
  have hfolders : Path.folders "/icon.png" = [] := by decide
  have hsteps : Path.steps "/icon.png" = [.down "icon.png"] := by decide
  have htarget : Path.steps "latest.png" ++ [] = [.down "latest.png"] := by decide
  refine FileSystem.prepares_of_isFolder (by simp [hfolders])
    ⟨[], 1, rfl, by decide, hsteps ▸ ?_⟩ (by simp [hfree])
  exact .link rfl (by decide) (by simp) hlink (htarget ▸ .fresh rfl (by decide) rfl hfree)

theorem Repository.write_laws_dangling : ∃ s',
    runOn (Repository.write ⟨"/"⟩ "icon.png" [1] :
      ExceptT Fault (StateM FileSystem) Unit) danglingSystem = (.ok (), s') ∧
    runOn (Repository.read ⟨"/"⟩ "icon.png" :
      ExceptT Fault (StateM FileSystem) Bytes) s' = (.ok [1], s') ∧
    ∃ place, danglingSystem.Writes "/icon.png" place [1] s' := by
  have hresolve : Repository.resolve ⟨"/"⟩ "icon.png" = "/icon.png" := by decide
  obtain ⟨s', hwrite, -, -⟩ := prepares_dangling.write [1]
  have hrun := (Repository.runOn_write_eq_ok_iff ⟨"/"⟩ "icon.png").mpr (hresolve ▸ hwrite)
  obtain ⟨hread, -, ⟨place, hwrites, -⟩, -⟩ := Repository.write_laws hrun
  exact ⟨s', hrun, hread, place, hresolve ▸ hwrites⟩

end ReleaseArtifacts
