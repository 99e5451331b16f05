import ReleaseArtifacts.Proofs.FileSystem.Descending

namespace ReleaseArtifacts.FileSystem

/-!
# Below a folder

* `Holds` — a path that leads to a folder, of a tree without links.
* `Holds.goesDown`, `Holds.nested` — the paths below it go down from that folder.
* `exists_holds` — what a file is in.
-/

variable {s s' : FileSystem} {base name : String} {folder : Place} {names outer : List String}

/-- A path with a name at its end leads to a folder of a tree without links. -/
structure Holds (s : FileSystem) (base : String) (folder : Place) : Prop where
  named : Path.EndsInName base
  leads : s.LeadsTo false base folder
  isFolder : s.tree.get? folder = some .folder
  linkless : s.tree.Linkless

/-- A walk to a place below a path begins where a walk along that path begins. -/
theorem start_below {start : Place} (hstart : s.start base = .ok start)
    (hnames : ∀ name ∈ names, CanName name)
    (hlength : (Path.below base names).utf8ByteSize < pathLimit) :
    s.start (Path.below base names) = .ok start := by
  obtain ⟨hnul, hne, -⟩ := start_eq_ok hstart
  have hsame := Path.isAbsolute_append hne (Path.below "" names)
  rw [← Path.below_eq] at hsame
  refine start_of_isAbsolute_eq hstart ?_ ?_ hlength hsame
  · clear hsame hlength
    induction names with
    | nil => exact hnul
    | cons name outer ih =>
      obtain ⟨hname, houter⟩ := List.forall_mem_cons.mp hnames
      simp only [Path.below, String.toList_append, List.mem_append, not_or]
      exact ⟨⟨ih houter, by decide⟩, hname.lacksNul⟩
  · rw [Path.below_eq]
    simp [hne]

/-- What a short path is below has a short path. -/
theorem short_below (h : (Path.below base (name :: outer)).utf8ByteSize < pathLimit) :
    (Path.below base outer).utf8ByteSize < pathLimit := by
  rw [Path.below, String.utf8ByteSize_append, String.utf8ByteSize_append] at h
  omega

namespace Holds

/-- A folder stays one, and no links come up. -/
theorem grows (h : Holds s base folder) (hgrows : s.Grows s') : Holds s' base folder where
  named := h.named
  leads := h.leads.grows hgrows
  isFolder := hgrows.tree.folder _ h.isFolder
  linkless place target hlink := h.linkless place target ((hgrows.tree.link place target).mpr hlink)

/-- The paths below a path go down from the folder that it leads to. -/
theorem goesDown (h : Holds s base folder) (hnames : ∀ name ∈ names, CanName name)
    (hlength : (Path.below base names).utf8ByteSize < pathLimit) :
    s.GoesDown (Path.below base names) folder names where
  linkless := h.linkless
  isFolder := h.isFolder
  canName := hnames
  way := by
    obtain ⟨start, n, hstart, hn, hleads⟩ := h.leads
    exact ⟨start, _, n, start_below hstart hnames hlength, hn, hleads,
      Path.steps_below h.named fun name hname => (hnames name hname).toIsName⟩

/-- They lie in each other. -/
theorem nested (h : Holds s base folder) (hnames : ∀ name ∈ names, CanName name)
    (hlength : (Path.below base names).utf8ByteSize < pathLimit) :
    s.Nested folder (Path.below base names :: Path.folders (Path.below base names)) names := by
  induction names with
  | nil => exact .inside ⟨folder, h.leads, h.isFolder⟩
  | cons name outer ih =>
    obtain ⟨-, houter⟩ := List.forall_mem_cons.mp hnames
    rw [Path.folders_below h.named fun n hn => (hnames n hn).toIsName]
    exact .down (h.goesDown hnames hlength) (ih houter (short_below hlength))

end Holds

/-- Where a path leads to a file of a tree without links, the file is in the folder that the path
    without the name of the file leads to. -/
theorem exists_holds {contents : Bytes} (hlinkless : s.tree.Linkless)
    (hnamed : Path.EndsInName base) (hname : Path.IsName name)
    (h : s.IsFile (Path.below base [name]) contents) :
    ∃ folder, Holds s base folder ∧ s.LeadsTo false (Path.below base [name]) (name :: folder) ∧
      s.tree.get? (name :: folder) = some (.file contents) := by
  obtain ⟨place, ⟨start, n, hstart, hn, hleads⟩, hfile⟩ := h
  have hsteps : Path.steps (Path.below base [name]) = Path.steps base ++ [.down name] :=
    Path.steps_append_name hnamed hname
  have hwhole := hleads
  rw [hsteps] at hleads
  obtain ⟨folder, k, m, hfront, hback, hsum⟩ := hleads.exists_between
  have hends : place = name :: folder := by
    cases hback with
    | move _ moves => exact absurd moves (by simp [FileTree.unnamed])
    | fresh _ _ creates => exact absurd creates Bool.false_ne_true
    | down _ _ _ _ _ on => cases on; rfl
    | link _ _ _ found => exact absurd found (hlinkless _ _)
  obtain ⟨hnul, -, hlength⟩ := start_eq_ok hstart
  refine ⟨folder, ⟨hnamed, ⟨start, k, ?_, by omega, hfront⟩,
    hback.folder_of_ne_nil (by simp), hlinkless⟩, hends ▸ ⟨start, n, hstart, hn, hwhole⟩,
    hends ▸ hfile⟩
  refine start_of_isAbsolute_eq hstart (fun hmem => hnul ?_) hnamed.ne_empty
    (short_below hlength) ?_
  · simp [Path.below, hmem]
  · rw [Path.below_eq base [name], Path.isAbsolute_append hnamed.ne_empty]

end ReleaseArtifacts.FileSystem
