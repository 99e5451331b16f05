import ReleaseArtifacts.Proofs.FileSystem.Overwriting

namespace ReleaseArtifacts

/-!
# Writes that commute

Two files are written in one order and in the other.  No write adds or takes away a link, so a path
leads to the same place in every file system on the way.

* `FileSystem.WritesTo` — files are written to places, with the folders they lie in.
* `FileSystem.WritesTo.append` — the effects of writes one after the other add up.
* `FileSystem.WritesTo.get?_eq` — elsewhere, the folders of the same files are the same.
* `FileSystem.write_comm`, `Repository.writes_commute` — so the order does not matter, as long as no
  file is lost by it.
-/

namespace FileSystem

variable {s s' s'' a b : FileSystem} {path folder : String} {paths paths' : List String}
  {place p : Place} {places places' : List Place} {contents : Bytes}

/-- Files are written to places, and the folders that their paths lie in are there afterwards.
    Elsewhere nothing happens but that folders are added, each of them where the path of one of
    these folders leads. -/
structure WritesTo (s : FileSystem) (paths : List String) (places : List Place)
    (s' : FileSystem) : Prop where
  grows : s.Grows s'
  inside : ∀ path ∈ paths, ∀ folder ∈ Path.folders path, s'.IsFolder folder
  elsewhere : ∀ p ∉ places, s'.tree.get? p = s.tree.get? p ∨
    (s.tree.get? p = none ∧ s'.tree.get? p = some .folder ∧
      ∃ path ∈ paths, ∃ folder ∈ Path.folders path, s'.LeadsTo false folder p)

/-- One file. -/
theorem Writes.writesTo (h : s.Writes path place contents s') : s.WritesTo [path] [place] s' where
  grows := h.grows
  inside := by
    intro path' hpath' folder hfolder
    obtain rfl := List.mem_singleton.mp hpath'
    exact h.leads.isFolder_outside hfolder
  elsewhere := by
    intro p hp
    rcases h.elsewhere p (by simpa using hp) with hsame | ⟨hnone, hadded, folder, hfolder, hleads⟩
    · exact .inl hsame
    · exact .inr ⟨hnone, hadded, path, List.mem_singleton_self _, folder, hfolder, hleads⟩

namespace WritesTo

/-- One file after the other. -/
theorem append (h : s.WritesTo paths places s') (h' : s'.WritesTo paths' places' s'') :
    s.WritesTo (paths ++ paths') (places ++ places') s'' where
  grows := h.grows.trans h'.grows
  inside := by
    intro path hpath folder hfolder
    rcases List.mem_append.mp hpath with hpath | hpath
    · exact (h.inside path hpath folder hfolder).grows h'.grows
    · exact h'.inside path hpath folder hfolder
  elsewhere := by
    intro p hp
    simp only [List.mem_append, not_or] at hp
    rcases h.elsewhere p hp.1 with hsame | ⟨hnone, hadded, path, hpath, folder, hfolder, hleads⟩
    · rcases h'.elsewhere p hp.2 with hsame' | ⟨hnone, hadded, path, hpath, hrest⟩
      · exact .inl (hsame'.trans hsame)
      · exact .inr ⟨hsame ▸ hnone, hadded, path, by simp [hpath], hrest⟩
    · exact .inr ⟨hnone, h'.grows.tree.folder p hadded, path, by simp [hpath], folder, hfolder,
        hleads.grows h'.grows⟩

/-- The folders of a file are at the same places in every file system that grew from the first. -/
theorem get?_of_leadsTo (h : s.WritesTo paths places a) (hgrows : s.Grows b) (hpath : path ∈ paths)
    (hfolder : folder ∈ Path.folders path) (hleads : b.LeadsTo false folder p) :
    a.tree.get? p = some .folder := by
  obtain ⟨q, hleads', hq⟩ := h.inside path hpath folder hfolder
  have hcurrent : a.current = b.current := h.grows.current.trans hgrows.current.symm
  have hlinks : b.tree.SameLinks a.tree :=
    hgrows.tree.sameLinks.symm.trans h.grows.tree.sameLinks
  rw [hleads.eq_of_sameLinks hleads' hcurrent hlinks]
  exact hq

/-- **The same files bring the same folders**, whatever they are written after. -/
theorem get?_eq (h : s.WritesTo paths places a) (h' : s.WritesTo paths' places' b)
    (hpaths : ∀ path, path ∈ paths ↔ path ∈ paths') (hp : p ∉ places) (hp' : p ∉ places') :
    a.tree.get? p = b.tree.get? p := by
  rcases h.elsewhere p hp with hsame | ⟨-, hadded, path, hpath, folder, hfolder, hleads⟩
  · rcases h'.elsewhere p hp' with hsame' | ⟨-, hadded, path, hpath, folder, hfolder, hleads⟩
    · exact hsame.trans hsame'.symm
    · rw [hadded]
      exact h.get?_of_leadsTo h'.grows ((hpaths path).mpr hpath) hfolder hleads
  · rw [hadded]
    exact (h'.get?_of_leadsTo h.grows ((hpaths path).mp hpath) hfolder hleads).symm

end WritesTo

/-- A file that was written stays while another one is written elsewhere. -/
theorem Writes.kept {path' : String} {place' : Place} {contents' : Bytes}
    (h : s.Writes path place contents s') (h' : s'.Writes path' place' contents' s'')
    (hne : place ≠ place') : s''.tree.get? place = some (.file contents) := by
  rcases h'.elsewhere place hne with hsame | ⟨hnone, -⟩
  · exact hsame.trans h.file
  · exact absurd (hnone.symm.trans h.file) (by simp)

section Both

variable {s₁ s₁₂ s₂ s₂₁ : FileSystem} {path₁ path₂ : String} {contents₁ contents₂ : Bytes}

/-- **Writes commute.**  Two files are written in both orders, and each time with success.  If the
    first one is still there after the second one was written then both orders leave the same. -/
theorem write_comm (h₁ : s.write path₁ contents₁ = (s₁, .ok ()))
    (h₁₂ : s₁.write path₂ contents₂ = (s₁₂, .ok ()))
    (h₂ : s.write path₂ contents₂ = (s₂, .ok ()))
    (h₂₁ : s₂.write path₁ contents₁ = (s₂₁, .ok ()))
    (hkept : s₁₂.IsFile path₁ contents₁) : s₁₂ = s₂₁ := by
  obtain ⟨place₁, hw₁⟩ := exists_writes h₁
  obtain ⟨place₂, hw₁₂⟩ := exists_writes h₁₂
  obtain ⟨place₂', hw₂⟩ := exists_writes h₂
  obtain ⟨place₁', hw₂₁⟩ := exists_writes h₂₁
  have hone := hw₁.writesTo.append hw₁₂.writesTo
  have hother := hw₂.writesTo.append hw₂₁.writesTo
  -- Each path leads to the same place in both orders, since the links are the same.
  have hcurrent : s₂₁.current = s₁₂.current := hother.grows.current.trans hone.grows.current.symm
  have hlinks : s₁₂.tree.SameLinks s₂₁.tree :=
    hone.grows.tree.sameLinks.symm.trans hother.grows.tree.sameLinks
  obtain rfl : place₁ = place₁' :=
    (hw₁.leads.grows hw₁₂.grows).eq_of_sameLinks hw₂₁.leads hcurrent hlinks
  obtain rfl : place₂ = place₂' :=
    hw₁₂.leads.eq_of_sameLinks (hw₂.leads.grows hw₂₁.grows) hcurrent hlinks
  -- The first file is there in both orders, so the second one is as well.
  have hfirst : s₁₂.tree.get? place₁ = some (.file contents₁) := by
    obtain ⟨place, hleads, hfile⟩ := hkept
    rw [(hw₁.leads.grows hw₁₂.grows).unique hleads]
    exact hfile
  have hsecond : s₂₁.tree.get? place₂ = some (.file contents₂) := by
    by_cases hsame : place₂ = place₁
    · have hcontents := (hsame ▸ hw₁₂.file).symm.trans hfirst
      rw [hcontents, hsame]
      exact hw₂₁.file
    · exact hw₂.kept hw₂₁ hsame
  refine ext_get? hcurrent.symm fun p => ?_
  by_cases hp₁ : p = place₁
  · rw [hp₁, hfirst, hw₂₁.file]
  · by_cases hp₂ : p = place₂
    · rw [hp₂, hsecond, hw₁₂.file]
    · exact hone.get?_eq hother (by simp [or_comm]) (by simp [hp₁, hp₂]) (by simp [hp₁, hp₂])

end Both

end FileSystem

/-! ### In a repository -/

namespace Repository

variable {s s₁₂ s₂₁ : FileSystem} {r : Repository} {path₁ path₂ : String}
  {contents₁ contents₂ : Bytes}

/-- Two files are written, one after the other. -/
def writeBoth (r : Repository) (path₁ : String) (contents₁ : Bytes) (path₂ : String)
    (contents₂ : Bytes) : ExceptT Fault (StateM FileSystem) Unit := do
  r.write path₁ contents₁
  r.write path₂ contents₂

/-- Both succeed. -/
theorem runOn_writeBoth_eq_ok_iff :
    runOn (r.writeBoth path₁ contents₁ path₂ contents₂) s = (.ok (), s₁₂) ↔
      ∃ s₁, s.write (r.resolve path₁) contents₁ = (s₁, .ok ()) ∧
        s₁.write (r.resolve path₂) contents₂ = (s₁₂, .ok ()) := by
  rw [writeBoth, runOn_bind, runOn_write]
  rcases s.write (r.resolve path₁) contents₁ with ⟨s₁, cause | ⟨⟩⟩
  · exact ⟨fun h => (nomatch (Prod.mk.inj h).1), fun ⟨_, h, _⟩ => nomatch (Prod.mk.inj h).2⟩
  · refine (runOn_write_eq_ok_iff r path₂).trans ⟨fun h => ⟨s₁, rfl, h⟩, ?_⟩
    rintro ⟨s', h, hsecond⟩
    obtain rfl := (Prod.mk.inj h).1
    exact hsecond

/-- **Independent writes commute.**  If two files can be written in either order, and the one that
    is written first can be read back after the other one was written, then the order makes no
    difference: it leaves the same tree, whatever the links in it make of the two paths. -/
theorem writes_commute
    (h₁₂ : runOn (r.writeBoth path₁ contents₁ path₂ contents₂) s = (.ok (), s₁₂))
    (h₂₁ : runOn (r.writeBoth path₂ contents₂ path₁ contents₁) s = (.ok (), s₂₁))
    (hkept : runOn (r.read path₁ : ExceptT Fault (StateM FileSystem) Bytes) s₁₂ =
      (.ok contents₁, s₁₂)) : s₁₂ = s₂₁ := by
  obtain ⟨s₁, hfirst, hsecond⟩ := runOn_writeBoth_eq_ok_iff.mp h₁₂
  obtain ⟨s₂, hfirst', hsecond'⟩ := runOn_writeBoth_eq_ok_iff.mp h₂₁
  exact FileSystem.write_comm hfirst hsecond hfirst' hsecond'
    ((runOn_read_eq_ok_iff r path₁).mp hkept)

/-- Two files for which no folder has to be made are written in this order. -/
theorem exists_writeBoth {place₁ place₂ : Place} (contents₁ contents₂ : Bytes)
    (h₁ : s.Prepares (r.resolve path₁) place₁ s) (h₂ : s.Prepares (r.resolve path₂) place₂ s) :
    ∃ s', runOn (r.writeBoth path₁ contents₁ path₂ contents₂) s = (.ok (), s') ∧
      (place₁ ≠ place₂ → s'.IsFile (r.resolve path₁) contents₁) := by
  obtain ⟨s₁, hfirst, hstores₁, hgrows₁⟩ := h₁.write contents₁
  have h₂' := h₂.of_stores hstores₁ hgrows₁
  obtain ⟨s', hsecond, hstores₂, hgrows₂⟩ := h₂'.write contents₂
  refine ⟨s', runOn_writeBoth_eq_ok_iff.mpr ⟨s₁, hfirst, hsecond⟩, fun hne => ?_⟩
  have hw₁ := h₁.writes hstores₁ hgrows₁
  exact ⟨place₁, hw₁.leads.grows hgrows₂, hw₁.kept (h₂'.writes hstores₂ hgrows₂) hne⟩

/-- A file for which no folder has to be made. -/
theorem prepares_notes : danglingSystem.Prepares "/notes.txt" ["notes.txt"] danglingSystem := by
  have hfree : danglingSystem.tree.get? ["notes.txt"] = none :=
    (get?_danglingSystem _).trans (by decide)
  have hfolders : Path.folders "/notes.txt" = [] := by decide
  have hsteps : Path.steps "/notes.txt" = [.down "notes.txt"] := by decide
  refine FileSystem.prepares_of_isFolder (by simp [hfolders])
    ⟨[], 0, rfl, by decide, hsteps ▸ ?_⟩ (by simp [hfree])
  exact .fresh rfl (by decide) rfl hfree

/-- One of the files is created through a link. -/
theorem writes_commute_dangling : ∃ s',
    runOn (writeBoth ⟨"/"⟩ "icon.png" [1] "notes.txt" [2]) danglingSystem = (.ok (), s') ∧
    runOn (writeBoth ⟨"/"⟩ "notes.txt" [2] "icon.png" [1]) danglingSystem = (.ok (), s') := by
  have hicon : Repository.resolve ⟨"/"⟩ "icon.png" = "/icon.png" := by decide
  have hnotes : Repository.resolve ⟨"/"⟩ "notes.txt" = "/notes.txt" := by decide
  obtain ⟨s₁₂, h₁₂, hkept⟩ :=
    exists_writeBoth [1] [2] (hicon ▸ prepares_dangling) (hnotes ▸ prepares_notes)
  obtain ⟨s₂₁, h₂₁, -⟩ :=
    exists_writeBoth [2] [1] (hnotes ▸ prepares_notes) (hicon ▸ prepares_dangling)
  have hread := (runOn_read_eq_ok_iff ⟨"/"⟩ "icon.png").mpr (hkept (by decide))
  have hsame := writes_commute h₁₂ h₂₁ hread
  exact ⟨s₁₂, h₁₂, hsame ▸ h₂₁⟩

end Repository

end ReleaseArtifacts
