import ReleaseArtifacts.Proofs.FileTree.Leading

namespace ReleaseArtifacts.FileTree

/-!
# Growing trees

Writing files only ever adds folders and files to a tree, and replaces the contents of files.

* `Grows` — folders stay folders, files stay files, and links stay what they are.
* `Leads.grows` — whatever steps led to before, they lead to afterwards.
* `grows_put_file` — putting a file lets a tree grow.
* `AddsFolders` — nothing happens to a tree but that folders are added.
-/

open ReleaseArtifacts.Path (Step)

variable {t t' t'' : FileTree} {creating : Bool} {place q : Place} {steps : List Step} {n : Nat}

/-- A tree grows: folders and files are added, and files get other contents. -/
structure Grows (t t' : FileTree) : Prop where
  folder : ∀ place, t.get? place = some .folder → t'.get? place = some .folder
  file : ∀ place contents, t.get? place = some (.file contents) →
    ∃ contents', t'.get? place = some (.file contents')
  link : ∀ place target, t.get? place = some (.link target) ↔ t'.get? place = some (.link target)

namespace Grows

theorem refl (t : FileTree) : Grows t t :=
  ⟨fun _ h => h, fun _ contents h => ⟨contents, h⟩, fun _ _ => Iff.rfl⟩

theorem trans (h : Grows t t') (h' : Grows t' t'') : Grows t t'' where
  folder place hfolder := h'.folder place (h.folder place hfolder)
  file place contents hfile := by
    obtain ⟨contents', hfile'⟩ := h.file place contents hfile
    exact h'.file place contents' hfile'
  link place target := (h.link place target).trans (h'.link place target)

/-- What is no link before is something of its own kind afterwards. -/
theorem exists_plain (h : Grows t t') {entry : Entry} (hfound : t.get? place = some entry)
    (hplain : ∀ target, entry ≠ .link target) :
    ∃ entry', t'.get? place = some entry' ∧ ∀ target, entry' ≠ .link target := by
  cases entry with
  | file contents =>
    obtain ⟨contents', hfound'⟩ := h.file place contents hfound
    exact ⟨_, hfound', by simp⟩
  | folder => exact ⟨_, h.folder place hfound, by simp⟩
  | link target => exact absurd rfl (hplain target)

end Grows

/-- **Steps lead where they led.**  A file that was to be created may be there by now. -/
theorem Leads.grows (h : t.Leads creating place steps n q) (hgrows : Grows t t') :
    t'.Leads creating place steps n q := by
  induction h with
  | here => exact .here _
  | move folder moves _ ih => exact .move (hgrows.folder _ folder) moves ih
  | @fresh place name folder short creates missing =>
    cases hfound : t'.get? (name :: place) with
    | none => exact .fresh (hgrows.folder _ folder) short creates hfound
    | some entry =>
      refine .down (hgrows.folder _ folder) short (by simp) hfound ?_ (.here _)
      rintro target rfl
      rw [(hgrows.link _ target).mpr hfound] at missing
      exact nomatch missing
  | down folder short noSlash found plain _ ih =>
    obtain ⟨entry', found', plain'⟩ := hgrows.exists_plain found plain
    exact .down (hgrows.folder _ folder) short noSlash found' plain' ih
  | link folder short noSlash found _ ih =>
    exact .link (hgrows.folder _ folder) short noSlash ((hgrows.link _ _).mp found) ih

/-! ### Putting -/

/-- A file that is put where there is no folder and no link lets a tree grow. -/
theorem grows_put_file {name : String} {folder : Place} (contents : Bytes)
    (hfolder : t.get? folder = some .folder) (hnone : t.get? (name :: folder) ≠ some .folder)
    (hplain : ∀ target, t.get? (name :: folder) ≠ some (.link target)) :
    Grows t (t.put name folder (.file contents)) := by
  have hput := get?_put (.file contents) hfolder hnone
  refine ⟨fun place h => ?_, fun place old h => ?_, fun place target => ?_⟩
  · rw [hput, if_neg (by rintro rfl; exact hnone h), h]
  · rw [hput]
    split
    · exact ⟨contents, rfl⟩
    · exact ⟨old, h⟩
  · rw [hput]
    split
    · rename_i heq
      exact ⟨fun h => absurd (heq ▸ h) (hplain target), fun h => nomatch h⟩
    · exact Iff.rfl

/-! ### Adding folders -/

/-- Nothing happens to a tree but that folders are added. -/
def AddsFolders (t t' : FileTree) : Prop :=
  ∀ place, t'.get? place = t.get? place ∨ (t.get? place = none ∧ t'.get? place = some .folder)

namespace AddsFolders

theorem refl (t : FileTree) : AddsFolders t t := fun _ => .inl rfl

theorem trans (h : AddsFolders t t') (h' : AddsFolders t' t'') : AddsFolders t t'' := by
  intro place
  rcases h place with hsame | ⟨hnone, hadded⟩ <;> rcases h' place with hsame' | ⟨hnone', hadded'⟩
  · exact .inl (hsame'.trans hsame)
  · exact .inr ⟨hsame ▸ hnone', hadded'⟩
  · exact .inr ⟨hnone, hsame'.trans hadded⟩
  · exact .inr ⟨hnone, hadded'⟩

/-- What was there stays as it is. -/
theorem get?_eq (h : AddsFolders t t') {entry : Entry} (hfound : t.get? place = some entry) :
    t'.get? place = some entry := by
  rcases h place with hsame | ⟨hnone, -⟩
  · exact hsame.trans hfound
  · exact absurd (hnone.symm.trans hfound) (by simp)

theorem grows (h : AddsFolders t t') : Grows t t' where
  folder _ hfolder := h.get?_eq hfolder
  file _ contents hfile := ⟨contents, h.get?_eq hfile⟩
  link place target := by
    refine ⟨fun hlink => h.get?_eq hlink, fun hlink => ?_⟩
    rcases h place with hsame | ⟨-, hadded⟩
    · exact hsame.symm.trans hlink
    · exact absurd (hadded.symm.trans hlink) (by simp)

end AddsFolders

/-- A folder that was missing is added. -/
theorem addsFolders_put {name : String} {folder : Place} (hfolder : t.get? folder = some .folder)
    (hmissing : t.get? (name :: folder) = none) :
    AddsFolders t (t.put name folder .folder) := by
  intro place
  rw [get?_put .folder hfolder (by simp [hmissing])]
  split
  · rename_i heq
    exact .inr ⟨heq ▸ hmissing, rfl⟩
  · exact .inl rfl

/-! ### Looking up -/

/-- There is nothing but the root in an empty tree. -/
theorem get?_empty (place : Place) :
    empty.get? place = if place = [] then some .folder else none := by
  cases place with
  | nil => rfl
  | cons name folder => simp [empty, get?, Entries.get?]

/-- What is where is known once it was known before an entry was put somewhere. -/
theorem get?_put_of {lookup : Place → Option Entry} {name : String} {folder : Place}
    (ht : ∀ place, t.get? place = lookup place) (entry : Entry)
    (h : lookup folder = some .folder) (h' : lookup (name :: folder) ≠ some .folder)
    (place : Place) :
    (t.put name folder entry).get? place =
      if place = name :: folder then some entry else lookup place := by
  rw [get?_put entry (ht folder ▸ h) (ht (name :: folder) ▸ h'), ht]

end ReleaseArtifacts.FileTree
