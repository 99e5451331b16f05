import ReleaseArtifacts.Proofs.FileSystem.Producing
import ReleaseArtifacts.Proofs.FileSystem.Tasks
import ReleaseArtifacts.Proofs.Path.Names

namespace ReleaseArtifacts

/-!
# When files can be written

In a tree without links an absolute path without dots leads where its names say.  Whether a file can
be written there depends on what is at that place and at the places it is in, and so does the fault
that is reported if it cannot.

* `FileSystem.exists_goesDown` — such a path goes down from the root, and its folders lie in each
  other.
* `FileSystem.write_of_names` — a file is written, or nothing happens.
* `FileTree.HasFile` — what can be in the way of a file; `FileSystem.refusal_of_folder`,
  `FileSystem.refusal_of_file`, `FileSystem.refusal_of_file_outside` — what is reported then.
* `Repository.write_outcome` — what comes out of writing a file in a repository.
-/

/-! ### Down from the root -/

namespace FileSystem

variable {s : FileSystem} {path : String} {piece : List Char} {outer parts : List (List Char)}

/-- A walk along an absolute path begins at the root. -/
theorem start_of_isAbsolute (habsolute : Path.isAbsolute path = true)
    (hnames : ∀ name ∈ Path.names path, CanName name) (hlength : path.utf8ByteSize < pathLimit) :
    s.start path = .ok [] := by
  have hnul : '\x00' ∉ path.toList := by
    intro hmem
    obtain ⟨name, hname, hc⟩ := Path.exists_name_of_mem hmem (by decide)
    exact (hnames name hname).lacksNul hc
  have hne : path ≠ "" := by
    rintro rfl
    exact absurd habsolute (by decide)
  rw [start, if_neg hnul, if_neg hne, if_neg (Nat.not_le_of_lt hlength), if_pos habsolute]

/-- Parts that are names go down from the root. -/
theorem goesDown_textOf (hlinkless : s.tree.Linkless)
    (hnames : ∀ name ∈ Path.namesIn (piece :: outer), CanName name) (hne : piece ≠ [])
    (hstart : s.start (Path.textOf (piece :: outer)) = .ok []) :
    s.GoesDown (Path.textOf (piece :: outer)) [] (Path.namesIn (piece :: outer)) where
  linkless := hlinkless
  isFolder := rfl
  canName := hnames
  way := ⟨[], [], 0, hstart, Nat.zero_le _, .here _,
    Path.steps_textOf (fun name hname => (hnames name hname).toIsName) hne⟩

/-- The folders outside lie in each other. -/
theorem nested_outward (hlinkless : s.tree.Linkless)
    (hnames : ∀ name ∈ Path.namesIn parts, CanName name)
    (hstart : ∀ folder ∈ (Path.outward parts).map Path.textOf, s.start folder = .ok []) :
    s.Nested [] ((Path.outward parts).map Path.textOf) (Path.namesIn parts) := by
  induction parts with
  | nil => exact .nil
  | cons piece outer ih =>
    rw [Path.outward] at hstart ⊢
    by_cases hne : piece = []
    · -- Between slashes that follow each other there is no folder.
      obtain rfl := hne
      exact ih hnames hstart
    · have hcons := Path.namesIn_cons hne outer
      have hname : CanName (String.ofList piece) := hnames _ (by simp [hcons])
      have hblank := hname.isBlank_eq
      rw [String.toList_ofList] at hblank
      rw [hblank, if_neg Bool.false_ne_true, List.map_cons] at hstart ⊢
      obtain ⟨hinner, houter⟩ := List.forall_mem_cons.mp hstart
      have hdown := goesDown_textOf hlinkless hnames hne hinner
      rw [hcons] at hdown hnames ⊢
      exact .down hdown (ih (fun n hn => hnames n (by simp [hn])) houter)

/-- An absolute path without dots goes down from the root, from one of its folders to the next. -/
theorem exists_goesDown (hlinkless : s.tree.Linkless) (habsolute : Path.isAbsolute path = true)
    (hnamed : Path.EndsInName path) (hnames : ∀ name ∈ Path.names path, CanName name)
    (hlength : path.utf8ByteSize < pathLimit) :
    ∃ name outer, Path.names path = name :: outer ∧ s.GoesDown path [] (name :: outer) ∧
      s.Nested [] (Path.folders path) outer := by
  have hstart := start_of_isAbsolute (s := s) habsolute hnames hlength
  have hfolders : ∀ folder ∈ Path.folders path, s.start folder = .ok [] := fun folder hfolder =>
    start_of_liesIn hstart (Path.liesIn_of_mem_folders hfolder)
  obtain ⟨front, last, hpieces, hblank⟩ := hnamed
  have hne : last ≠ [] := by
    rintro rfl
    exact absurd hblank (by decide)
  -- The last part is the name of the file, and the folders are what is outside of it.
  have hparts : (Path.pieces path.toList).reverse = last :: front.reverse := by
    rw [hpieces, List.reverse_append]
    rfl
  have hpath : Path.textOf (last :: front.reverse) = path := by
    rw [← hparts, Path.textOf_pieces]
  have houtside : Path.folders path = (Path.outward front.reverse).map Path.textOf := by
    rw [Path.folders, hparts, Path.outward, hblank, if_neg Bool.false_ne_true]
    rfl
  have hcons : Path.names path = String.ofList last :: Path.namesIn front.reverse := by
    rw [Path.names, hparts, Path.namesIn_cons hne]
  have hdown : s.GoesDown path [] (String.ofList last :: Path.namesIn front.reverse) := by
    rw [← hpath, ← Path.namesIn_cons hne]
    exact goesDown_textOf hlinkless (by rwa [← hparts]) hne (by rwa [hpath])
  rw [houtside] at hfolders ⊢
  rw [hcons] at hnames
  exact ⟨_, _, hcons, hdown,
    nested_outward hlinkless (fun n hn => hnames n (by simp [hn])) hfolders⟩

/-- **Writing a file by its names.**  Either it is written, or nothing happens. -/
theorem write_of_names (hlinkless : s.tree.Linkless) (habsolute : Path.isAbsolute path = true)
    (hnamed : Path.EndsInName path) (hnames : ∀ name ∈ Path.names path, CanName name)
    (hlength : path.utf8ByteSize < pathLimit) (contents : Bytes) :
    (s.tree.writable (Path.names path) = true ∧ ∃ s', s.write path contents = (s', .ok ()) ∧
      s.Produces [⟨path, Path.names path, contents⟩] s') ∨
    (s.tree.writable (Path.names path) = false ∧
      s.write path contents = (s, .error (refusal s.tree (Path.names path)))) := by
  obtain ⟨name, outer, hcons, hdown, hnested⟩ :=
    exists_goesDown hlinkless habsolute hnamed hnames hlength
  have hwrite := hdown.write hnested contents
  rwa [List.append_nil, ← hcons] at hwrite

end FileSystem

/-! ### What is in the way -/

namespace FileTree

variable {t : FileTree} {place outer : Place}

/-- There is a file at a place. -/
def HasFile (t : FileTree) (place : Place) : Prop :=
  ∃ contents, t.get? place = some (.file contents)

/-- Without links only files are in the way. -/
theorem isOpen_iff_of_linkless (hlinkless : t.Linkless) :
    t.isOpen place = true ↔ ∀ outer, outer <:+ place → ¬ t.HasFile outer := by
  rw [isOpen_iff]
  refine forall₂_congr fun outer _ => ?_
  cases hfound : t.get? outer with
  | none => simp [HasFile, hfound]
  | some entry =>
    cases entry with
    | file contents => simp [HasFile, hfound]
    | folder => simp [HasFile, hfound]
    | link target => exact absurd hfound (hlinkless _ _)

/-- A file can be written where none is in the way, and no folder is in its place. -/
theorem writable_iff_of_linkless (hlinkless : t.Linkless) :
    t.writable place = true ↔
      (∀ outer, outer <:+ place.tail → ¬ t.HasFile outer) ∧ t.get? place ≠ some .folder := by
  cases place with
  | nil => simp [writable]
  | cons name folder =>
    rw [writable, Bool.and_eq_true, decide_eq_true_iff, isOpen_iff_of_linkless hlinkless, and_comm]
    rfl

end FileTree

namespace FileSystem

variable {t : FileTree} {place outer : Place}

/-- A folder in the place of the file is reported. -/
theorem refusal_of_folder (h : t.get? place = some .folder) : refusal t place = .isFolder := by
  cases place with
  | nil => rfl
  | cons name folder => exact if_pos (FileTree.isFolder_iff.mpr h)

/-- What is not in a folder is refused for what it would be in. -/
theorem refusal_of_not_folder (h : t.get? place.tail ≠ some .folder) :
    refusal t place = blockage t place.tail := by
  cases place with
  | nil => exact absurd rfl h
  | cons name folder =>
    have hfree : t.get? (name :: folder) = none := FileTree.get?_cons_of_not_folder name h
    exact if_neg (mt FileTree.isFolder_iff.mp (by simp [hfree]))

/-- A file that it would be in is reported as being there already. -/
theorem refusal_of_file (h : t.HasFile place.tail) : refusal t place = .alreadyExists := by
  obtain ⟨contents, hfile⟩ := h
  rw [refusal_of_not_folder (by simp [hfile]), blockage, hfile]
  rfl

/-- A file further outside is reported as not being a folder. -/
theorem refusal_of_file_outside (h : t.HasFile outer) (houter : outer <:+ place.tail)
    (hne : outer ≠ place.tail) : refusal t place = .notFolder := by
  obtain ⟨contents, hfile⟩ := h
  -- The folder of the file is missing, for it would be in another file.
  have hmissing : t.get? place.tail = none := by
    by_contra hsome
    have hfolder := FileTree.get?_of_suffix_of_ne (Option.isSome_iff_ne_none.mpr hsome) houter hne
    exact absurd (hfolder.symm.trans hfile) (by simp)
  rw [refusal_of_not_folder (by simp [hmissing]), blockage, hmissing]
  rfl

end FileSystem

/-! ### In a repository -/

variable {s : FileSystem} {r : Repository} {path : String} {contents : Bytes}

/-- Writing a file is refused with a fault of this kind, and nothing happens. -/
def Repository.Refuses (r : Repository) (path : String) (contents : Bytes) (s : FileSystem)
    (kind : FaultKind) : Prop :=
  ∃ cause, (Fault.writeFailed (r.resolve path) cause).kind = kind ∧
    runOn (r.write path contents : ExceptT Fault (StateM FileSystem) Unit) s =
      (.error (.writeFailed (r.resolve path) cause), s)

theorem Repository.refuses {fault : PathFault}
    (h : s.write (r.resolve path) contents = (s, .error fault)) :
    r.Refuses path contents s fault.toIoFault.kind :=
  ⟨_, rfl, by rw [runOn_write, h]⟩

/-- The names in the path of a file of a repository are those of both paths, or only its own. -/
theorem Repository.names_resolve_subset (r : Repository) (path : String) :
    Path.names (r.resolve path) ⊆ Path.names r.root ++ Path.names path := by
  rw [resolve]
  by_cases habsolute : Path.isAbsolute path = true
  · rw [Path.join, if_pos habsolute]
    exact List.subset_append_right _ _
  · rw [Path.names_join r.root (Bool.eq_false_iff.mpr habsolute)]
    exact (List.perm_append_comm).subset

/-- **When files can be written, and what is reported if they cannot.**  In a tree without links, by
    a path without dots and in a repository that starts from the root, a file is written exactly if
    it would not be in another file and there is no folder in its place.  Otherwise nothing happens;
    the fault says that the file it would be directly in is there already, that one further outside
    is not a folder, or that a folder is in its place. -/
theorem Repository.write_outcome (hlinkless : s.tree.Linkless)
    (hroot : Path.isAbsolute r.root = true)
    (hnames : ∀ name ∈ Path.names r.root ++ Path.names path, FileSystem.CanName name)
    (hnamed : Path.EndsInName path) (hlength : (r.resolve path).utf8ByteSize < pathLimit)
    (contents : Bytes) :
    let place := Path.names (r.resolve path)
    let outcome := runOn (r.write path contents : ExceptT Fault (StateM FileSystem) Unit) s
    (outcome.1 = .ok () ↔
      (∀ outer, outer <:+ place.tail → ¬ s.tree.HasFile outer) ∧ s.tree.get? place ≠ some .folder) ∧
    (outcome.1 = .ok () → s.Produces [⟨r.resolve path, place, contents⟩] outcome.2) ∧
    (outcome.1 ≠ .ok () → ∃ kind, r.Refuses path contents s kind) ∧
    (s.tree.HasFile place.tail → r.Refuses path contents s .alreadyExists) ∧
    (∀ outer, outer <:+ place.tail → outer ≠ place.tail → s.tree.HasFile outer →
      r.Refuses path contents s .notADirectory) ∧
    (s.tree.get? place = some .folder → r.Refuses path contents s .isADirectory) := by
  have habsolute : Path.isAbsolute (r.resolve path) = true := Path.isAbsolute_join hroot path
  have hends : Path.EndsInName (r.resolve path) := hnamed.join r.root
  have hcan := fun n hn => hnames n (r.names_resolve_subset path hn)
  intro place outcome
  have hwritable : s.tree.writable place = true ↔ _ := FileTree.writable_iff_of_linkless hlinkless
  rcases FileSystem.write_of_names hlinkless habsolute hends hcan hlength contents with
    ⟨hfree, s', hwrite, hproduces⟩ | ⟨hblocked, hwrite⟩
  · -- Nothing is in the way, so there is none of the reasons to refuse the file.
    have hdone : outcome = (.ok (), s') := (runOn_write_eq_ok_iff r path).mpr hwrite
    obtain ⟨hopen, hnone⟩ := hwritable.mp hfree
    rw [hdone]
    exact ⟨iff_of_true rfl ⟨hopen, hnone⟩, fun _ => hproduces, fun hfailed => absurd rfl hfailed,
      fun hfile => absurd hfile (hopen _ List.suffix_rfl),
      fun outer houter _ hfile => absurd hfile (hopen outer houter), fun h => absurd h hnone⟩
  · -- What is in the way decides what is reported.
    have hrefuses := Repository.refuses hwrite
    have hfailed : outcome.1 ≠ .ok () := by
      obtain ⟨cause, -, hrun⟩ := hrefuses
      rw [show outcome = _ from hrun]
      exact nofun
    refine ⟨iff_of_false hfailed fun h => absurd (hblocked.symm.trans (hwritable.mpr h)) (by simp),
      fun h => absurd h hfailed, fun _ => ⟨_, hrefuses⟩, fun hfile => ?_,
      fun outer houter hne hfile => ?_, fun hfolder => ?_⟩
    · rwa [FileSystem.refusal_of_file hfile] at hrefuses
    · rwa [FileSystem.refusal_of_file_outside hfile houter hne] at hrefuses
    · rwa [FileSystem.refusal_of_folder hfolder] at hrefuses

/-- A file system with nothing but a file. -/
def fileSystemOfFile : FileSystem where
  tree := FileTree.empty.put "docs" [] (.file [1])
  current := none

theorem get?_fileSystemOfFile (p : Place) : fileSystemOfFile.tree.get? p =
    if p = ["docs"] then some (.file [1]) else if p = [] then some .folder else none :=
  FileTree.get?_put_of FileTree.get?_empty _ (by decide) (by decide) p

theorem linkless_fileSystemOfFile : fileSystemOfFile.tree.Linkless := by
  intro place target
  rw [get?_fileSystemOfFile]
  split
  · simp
  · split <;> simp

/-- Nothing can be written below the file. -/
theorem Repository.write_outcome_below_file :
    Repository.Refuses ⟨"/"⟩ "docs/index.md" [] fileSystemOfFile .alreadyExists ∧
    Repository.Refuses ⟨"/"⟩ "docs/guide/index.md" [] fileSystemOfFile .notADirectory := by
  have hfile : fileSystemOfFile.tree.HasFile ["docs"] :=
    ⟨[1], (get?_fileSystemOfFile _).trans (by decide)⟩
  have hnear : Path.EndsInName "docs/index.md" := ⟨["docs".toList], _, rfl, rfl⟩
  have hfar : Path.EndsInName "docs/guide/index.md" :=
    ⟨["docs".toList, "guide".toList], _, rfl, rfl⟩
  obtain ⟨-, -, -, hdirectly, -⟩ := Repository.write_outcome (r := ⟨"/"⟩)
    linkless_fileSystemOfFile (by decide) (by decide) hnear (by decide) []
  obtain ⟨-, -, -, -, houtside, -⟩ := Repository.write_outcome (r := ⟨"/"⟩)
    linkless_fileSystemOfFile (by decide) (by decide) hfar (by decide) []
  exact ⟨hdirectly hfile, houtside ["docs"] ⟨["guide"], rfl⟩ (by decide) hfile⟩

end ReleaseArtifacts
