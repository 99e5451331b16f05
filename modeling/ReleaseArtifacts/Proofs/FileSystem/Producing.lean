import ReleaseArtifacts.Proofs.FileSystem.Below
import ReleaseArtifacts.Proofs.FileSystem.Rewriting

namespace ReleaseArtifacts.FileSystem

/-!
# Writing files apart

Several files are written one after the other in a tree without links, none of them in the place of
another one or of a folder of it.

* `Output`, `Output.Fits` — a file that is written to a place below a folder.
* `Produces` — files are written, and nothing else happens.
* `GoesDown.write` — what writing a file down from a folder does, and what it reports.
* `Output.Fits.write` — a file is written, or nothing happens.
* `Produces.get?_eq`, `Produces.writable_eq` — what stays as it was.
* `exists_writesAll` — files apart from each other that can be written are written.
-/

variable {s s' s₁ : FileSystem} {base path name : String} {folder place : Place}
  {outer : List String} {contents : Bytes} {o : Output} {outputs : List Output}

/-- A file that is written: its path, the place that belongs to the path, and the contents. -/
structure Output where
  path : String
  place : Place
  contents : Bytes

/-- Files are written, and what they are in are folders; nothing else happens. -/
structure Produces (s : FileSystem) (outputs : List Output) (s' : FileSystem) : Prop where
  grows : s.Grows s'
  file : ∀ o ∈ outputs, s'.tree.get? o.place = some (.file o.contents)
  inside : ∀ o ∈ outputs, ∀ p, p <:+ o.place → p ≠ o.place → s'.tree.get? p = some .folder
  outside : ∀ p, (∀ o ∈ outputs, ¬ p <:+ o.place) → s'.tree.get? p = s.tree.get? p

/-- A path is that of a place in a tree without links. -/
inductive Output.Fits (s : FileSystem) : Output → Prop
  | below {base name : String} {folder : Place} {outer : List String} (holds : Holds s base folder)
      (names : ∀ n ∈ name :: outer, CanName n)
      (short : (Path.below base (name :: outer)).utf8ByteSize < pathLimit) (contents : Bytes) :
      Fits s ⟨Path.below base (name :: outer), name :: (outer ++ folder), contents⟩

/-- It stays so. -/
theorem Output.Fits.grows {o : Output} (h : o.Fits s) (hgrows : s.Grows s') : o.Fits s' := by
  cases h with
  | below holds names short contents => exact .below (holds.grows hgrows) names short contents

/-- Once its folders are made a file is stored. -/
theorem MakesFolders.store {s₁ : FileSystem} {path : String} (h : s.MakesFolders place s₁)
    (hstores : s₁.Stores (name :: place) contents s') (hgrows : s₁.Grows s') :
    s.Produces [⟨path, name :: place, contents⟩] s' where
  grows := h.adds.grows.trans hgrows
  file o ho := by
    obtain rfl := List.mem_singleton.mp ho
    rw [hstores.get?, if_pos rfl]
  inside o ho p hp hne := by
    obtain rfl := List.mem_singleton.mp ho
    rw [hstores.get?, if_neg hne]
    exact h.inside p ((List.suffix_cons_iff.mp hp).resolve_left hne)
  outside p hp := by
    have hplace := hp _ (List.mem_singleton_self _)
    rw [hstores.get?, if_neg (by rintro rfl; exact hplace List.suffix_rfl)]
    exact h.outside p fun hsuffix => hplace (hsuffix.trans (List.suffix_cons ..))

/-- Where there is a folder none was made. -/
theorem MakesFolders.eq_of_folder (h : s.MakesFolders place s')
    (hfolder : s.tree.get? place = some .folder) : s' = s := by
  refine ext_get? h.adds.current fun p => ?_
  by_cases hp : p <:+ place
  · rw [h.inside p hp, FileTree.get?_of_suffix hfolder hp]
  · exact h.outside p hp

/-- What is reported where a file cannot be written: there is a folder in its place, or another file
    is in its way. -/
def refusal (t : FileTree) : Place → PathFault
  | [] => .isFolder
  | name :: folder => if t.isFolder (name :: folder) then .isFolder else blockage t folder

/-- **Writing a file down from a folder.**  Either it is written, since no file is in the way and no
    folder in its place, or nothing happens. -/
theorem GoesDown.write (h : s.GoesDown path folder (name :: outer))
    (hnested : s.Nested folder (Path.folders path) outer) (contents : Bytes) :
    (s.tree.writable (name :: (outer ++ folder)) = true ∧
      ∃ s', s.write path contents = (s', .ok ()) ∧
        s.Produces [⟨path, name :: (outer ++ folder), contents⟩] s') ∨
    (s.tree.writable (name :: (outer ++ folder)) = false ∧
      s.write path contents = (s, .error (refusal s.tree (name :: (outer ++ folder))))) := by
  rw [FileSystem.write]
  rcases hnested.makeFolders h.isFolder with ⟨hopen, s₁, hmade, hmakes⟩ | ⟨hclosed, hmade⟩
  · have hleads : s₁.LeadsTo true path (name :: (outer ++ folder)) :=
      (h.grows hmakes.adds.grows).leadsTo_creating (hmakes.inside _ List.suffix_rfl)
    rw [hmade]
    dsimp only
    by_cases hinner : s.tree.get? (name :: (outer ++ folder)) = some .folder
    · -- What the folder is in are folders, so none had to be made.
      obtain rfl := hmakes.eq_of_folder (FileTree.get?_tail hinner)
      refine .inr ⟨by simp [FileTree.writable, hinner], ?_⟩
      rw [store_of_folder hleads hinner, refusal, if_pos (FileTree.isFolder_iff.mpr hinner)]
    · have hsame : s₁.tree.get? (name :: (outer ++ folder)) =
          s.tree.get? (name :: (outer ++ folder)) :=
        hmakes.outside _ fun hsuffix => absurd hsuffix.length_le (by simp)
      obtain ⟨s', hstore, hstores, hgrows⟩ :=
        store_of_leadsTo hleads (hsame.symm ▸ hinner) contents
      exact .inl ⟨by simp [FileTree.writable, hinner, hopen], s', by rw [hstore],
        hmakes.store hstores hgrows⟩
  · have hinner : s.tree.get? (name :: (outer ++ folder)) ≠ some .folder := fun hinner =>
      absurd (FileTree.isOpen_of_folder (FileTree.get?_tail hinner)) (by simp [hclosed])
    refine .inr ⟨by simp [FileTree.writable, hclosed], ?_⟩
    rw [hmade, refusal, if_neg (mt FileTree.isFolder_iff.mp hinner)]

/-- Writing a file below a path. -/
theorem Holds.write_below (h : Holds s base folder) (hnames : ∀ n ∈ name :: outer, CanName n)
    (hlength : (Path.below base (name :: outer)).utf8ByteSize < pathLimit) (contents : Bytes) :
    (s.tree.writable (name :: (outer ++ folder)) = true ∧
      ∃ s', s.write (Path.below base (name :: outer)) contents = (s', .ok ()) ∧
        s.Produces [⟨Path.below base (name :: outer), name :: (outer ++ folder), contents⟩] s') ∨
    (s.tree.writable (name :: (outer ++ folder)) = false ∧
      ∃ fault, s.write (Path.below base (name :: outer)) contents = (s, .error fault)) := by
  obtain ⟨-, houter⟩ := List.forall_mem_cons.mp hnames
  have hnested := h.nested houter (short_below hlength)
  rw [← Path.folders_below h.named fun n hn => (hnames n hn).toIsName] at hnested
  exact ((h.goesDown hnames hlength).write hnested contents).imp_right fun ⟨hblocked, hwrite⟩ =>
    ⟨hblocked, _, hwrite⟩

/-! ### One file -/

namespace Output.Fits

/-- A file that fits is written if its place is writable; otherwise nothing happens. -/
theorem write (h : o.Fits s) :
    (s.tree.writable o.place = true ∧
      ∃ s', s.write o.path o.contents = (s', .ok ()) ∧ s.Produces [o] s') ∨
    (s.tree.writable o.place = false ∧ ∃ fault, s.write o.path o.contents = (s, .error fault)) := by
  cases h with
  | below holds names short contents => exact holds.write_below names short contents

/-- What is in its place is read back. -/
theorem contents_eq (h : o.Fits s) (hfile : s.tree.get? o.place = some (.file contents)) :
    s.contents o.path = .ok contents := by
  cases h with
  | below holds names short _ =>
    exact contents_eq_ok_iff.mpr ⟨_, (holds.goesDown names short).leadsTo hfile, hfile⟩

end Output.Fits

/-! ### What stays -/

/-- None of two places is the other one or in it. -/
def Apart (p q : Place) : Prop := ¬ p <:+ q ∧ ¬ q <:+ p

/-- Different places in equally many folders are apart. -/
theorem apart_of_length {p q : Place} (hlength : p.length = q.length) (hne : p ≠ q) : Apart p q :=
  ⟨fun h => hne (h.eq_of_length hlength), fun h => hne (h.eq_of_length hlength.symm).symm⟩

namespace Produces

/-- Elsewhere nothing happens but that folders are added. -/
theorem get?_eq (h : s.Produces outputs s') {p : Place} (hp : ∀ o ∈ outputs, p ≠ o.place) :
    s'.tree.get? p = s.tree.get? p ∨
      (s.tree.get? p = none ∧ s'.tree.get? p = some .folder) := by
  by_cases hinside : ∃ o ∈ outputs, p <:+ o.place
  · obtain ⟨o, ho, hsuffix⟩ := hinside
    have hfolder := h.inside o ho p hsuffix (hp o ho)
    -- Files and links stay what they are, so none of them can have become a folder.
    cases hnow : s.tree.get? p with
    | none => exact .inr ⟨rfl, hfolder⟩
    | some entry =>
      cases entry with
      | folder => exact .inl hfolder
      | file contents =>
        obtain ⟨contents', hfile⟩ := h.grows.tree.file p contents hnow
        exact absurd (hfolder.symm.trans hfile) (by simp)
      | link target =>
        exact absurd (hfolder.symm.trans ((h.grows.tree.link p target).mp hnow)) (by simp)
  · exact .inl (h.outside p fun o ho hsuffix => hinside ⟨o, ho, hsuffix⟩)

/-- The other files stay as they were. -/
theorem kept (h : s.Produces outputs s') {p : Place} (hp : ∀ o ∈ outputs, p ≠ o.place)
    (hfile : s.tree.get? p = some (.file contents)) : s'.tree.get? p = some (.file contents) := by
  rcases h.get?_eq hp with hsame | ⟨hnone, -⟩
  · exact hsame.trans hfile
  · exact absurd (hnone.symm.trans hfile) (by simp)

/-- Whether files are in the way stays as it was. -/
theorem isOpen_eq (h : s.Produces outputs s') {p : Place} (hp : ∀ o ∈ outputs, ¬ o.place <:+ p) :
    s'.tree.isOpen p = s.tree.isOpen p := by
  rw [Bool.eq_iff_iff, FileTree.isOpen_iff, FileTree.isOpen_iff]
  refine forall₂_congr fun outer houter => ?_
  have hother : ∀ o ∈ outputs, outer ≠ o.place := fun o ho heq => hp o ho (heq ▸ houter)
  rcases h.get?_eq hother with hsame | ⟨hnone, hfolder⟩
  · rw [hsame]
  · exact iff_of_true (.inr hfolder) (.inl hnone)

/-- **What can be written stays so**, apart from what was written. -/
theorem writable_eq (h : s.Produces outputs s') {p : Place}
    (hp : ∀ o ∈ outputs, Apart o.place p) : s'.tree.writable p = s.tree.writable p := by
  cases p with
  | nil => rfl
  | cons name folder =>
    have hhere := h.outside (name :: folder) fun o ho => (hp o ho).2
    have hfolder := h.isOpen_eq (p := folder) fun o ho hsuffix =>
      (hp o ho).1 (hsuffix.trans (List.suffix_cons ..))
    rw [FileTree.writable, FileTree.writable, hhere, hfolder]

/-! ### Several files -/

theorem nil (s : FileSystem) : s.Produces [] s :=
  ⟨.refl s, nofun, nofun, fun _ _ => rfl⟩

/-- One file, and then others that are apart from it. -/
theorem cons (h : s.Produces [o] s₁) (h' : s₁.Produces outputs s')
    (hapart : ∀ o' ∈ outputs, Apart o'.place o.place) : s.Produces (o :: outputs) s' where
  grows := h.grows.trans h'.grows
  file o' ho' := by
    rcases List.mem_cons.mp ho' with rfl | hrest
    · rw [h'.outside _ fun o ho => (hapart o ho).2]
      exact h.file _ (List.mem_singleton_self _)
    · exact h'.file o' hrest
  inside o' ho' p hp hne := by
    rcases List.mem_cons.mp ho' with rfl | hrest
    · exact h'.grows.tree.folder p (h.inside _ (List.mem_singleton_self _) p hp hne)
    · exact h'.inside o' hrest p hp hne
  outside p hp := by
    rw [h'.outside p fun o ho => hp o (by simp [ho])]
    exact h.outside p fun o ho => hp o (by simp_all)

end Produces

/-- **Writing files apart from each other.**  If each of them can be written then all of them are,
    one after the other. -/
theorem exists_writesAll (hfits : ∀ o ∈ outputs, o.Fits s)
    (hapart : outputs.Pairwise fun o o' => Apart o'.place o.place)
    (hwritable : ∀ o ∈ outputs, s.tree.writable o.place = true) :
    ∃ s', s.WritesAll (outputs.map fun o => (o.path, o.contents)) s' ∧ s.Produces outputs s' := by
  induction outputs generalizing s with
  | nil => exact ⟨s, .nil s, .nil s⟩
  | cons o outputs ih =>
    obtain ⟨hothers, hapart⟩ := List.pairwise_cons.mp hapart
    rcases (hfits o (by simp)).write with ⟨-, s₁, hwrite, hproduces⟩ | ⟨hblocked, -⟩
    · -- What is written first does not get in the way of the others.
      have hfits₁ : ∀ o' ∈ outputs, o'.Fits s₁ := fun o' ho' =>
        (hfits o' (by simp [ho'])).grows hproduces.grows
      have hwritable₁ : ∀ o' ∈ outputs, s₁.tree.writable o'.place = true := by
        intro o' ho'
        rw [hproduces.writable_eq fun o'' ho'' => ?_]
        · exact hwritable o' (by simp [ho'])
        · obtain rfl := List.mem_singleton.mp ho''
          exact (hothers o' ho').symm
      obtain ⟨s', hwrites, hrest⟩ := ih hfits₁ hapart hwritable₁
      exact ⟨s', .cons hwrite hwrites, hproduces.cons hrest hothers⟩
    · exact absurd (hwritable o (by simp)) (by simp [hblocked])

end ReleaseArtifacts.FileSystem
