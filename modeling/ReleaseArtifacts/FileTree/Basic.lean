import Std.Data.ExtTreeMap
import ReleaseArtifacts.Bytes

namespace ReleaseArtifacts

/-!
# File trees

* `Place` — where an entry is, by the names of the folders it is in.
* `Entry` — a file, a folder, or a link.
* `FileTree` — the entries of all places.  Whatever is in the tree is in a folder of the tree.
* `FileTree.put`, `FileTree.remove` — adds or replaces an entry, takes one away.

Two trees with the same entry at every place are equal (`FileTree.ext_get?`).
-/

/-- The names of an entry and of the folders it is in, the innermost first.  The root has none. -/
abbrev Place := List String

/-- What is at a place. -/
inductive Entry
  | file (contents : Bytes)
  | folder
  /-- stands for the entry that a path leads to -/
  | link (target : String)
deriving DecidableEq, Repr

/-- The entries outside the root. -/
abbrev Entries := Std.ExtTreeMap Place Entry

namespace Entries

/-- What is at a place; the root is a folder. -/
def get? (entries : Entries) : Place → Option Entry
  | [] => some .folder
  | name :: folder => entries[name :: folder]?

/-- What is at a place after an entry was put somewhere. -/
theorem get?_insert (entries : Entries) (name : String) (folder : Place) (entry : Entry)
    (place : Place) :
    get? (entries.insert (name :: folder) entry) place =
      if place = name :: folder then some entry else entries.get? place := by
  cases place with
  | nil => simp [get?]
  | cons n f =>
    simp only [get?, Std.ExtTreeMap.getElem?_insert, Std.LawfulEqCmp.compare_eq_iff_eq]
    simp only [eq_comm]

/-- What is at a place after all but some places were cleared. -/
theorem get?_filter (entries : Entries) (keep : Place → Bool) (name : String) (folder : Place) :
    get? (entries.filter fun place _ => keep place) (name :: folder) =
      if keep (name :: folder) then entries.get? (name :: folder) else none := by
  simp only [get?, Std.ExtTreeMap.getElem?_filter']
  cases entries[name :: folder]? <;> cases keep (name :: folder) <;> simp

end Entries

/-- The entries of all places.  Whatever has a place is in a folder. -/
structure FileTree where
  entries : Entries
  inFolders : ∀ name folder, (entries.get? (name :: folder)).isSome →
    entries.get? folder = some .folder
  rootUnnamed : entries[([] : Place)]? = none

namespace FileTree

/-- What is at a place. -/
def get? (t : FileTree) (place : Place) : Option Entry := t.entries.get? place

/-- Whether there is a folder at a place. -/
def isFolder (t : FileTree) (place : Place) : Bool := t.get? place = some .folder

/-- There is a folder at a place if that is what is there. -/
theorem isFolder_iff {t : FileTree} {place : Place} :
    t.isFolder place ↔ t.get? place = some .folder := decide_eq_true_iff

/-- The root is a folder. -/
@[simp] theorem get?_root (t : FileTree) : t.get? [] = some .folder := rfl

/-- What is at a place is in a folder. -/
theorem get?_of_isSome {t : FileTree} {name : String} {folder : Place}
    (h : (t.get? (name :: folder)).isSome) : t.get? folder = some .folder :=
  t.inFolders name folder h

/-- Two trees with the same entry at every place are equal. -/
theorem ext_get? {t t' : FileTree} (h : ∀ place, t.get? place = t'.get? place) : t = t' := by
  obtain ⟨e, he, hr⟩ := t
  obtain ⟨e', he', hr'⟩ := t'
  have : e = e' := Std.ExtTreeMap.ext_getElem? fun place => by
    cases place with
    | nil => rw [hr, hr']
    | cons name folder => exact h (name :: folder)
  subst this
  rfl

/-- A tree with nothing in it. -/
def empty : FileTree := ⟨∅, by simp [Entries.get?], by simp⟩

/-! ### Putting entries -/

/-- Adds an entry to a folder, or replaces one that is not a folder. -/
def put (t : FileTree) (name : String) (folder : Place) (entry : Entry) : FileTree :=
  if h : t.isFolder folder ∧ ¬ t.isFolder (name :: folder) then
    { entries := t.entries.insert (name :: folder) entry
      inFolders := by
        intro n f hs
        rw [Entries.get?_insert] at hs ⊢
        have hf : f ≠ name :: folder := by
          rintro rfl
          rw [if_neg (by simp)] at hs
          exact h.2 (isFolder_iff.2 (t.inFolders n _ hs))
        rw [if_neg hf]
        split at hs
        · rename_i heq
          obtain ⟨rfl, rfl⟩ := List.cons.inj heq
          exact isFolder_iff.1 h.1
        · exact t.inFolders n f hs
      rootUnnamed := by simp [Std.ExtTreeMap.getElem?_insert, t.rootUnnamed] }
  else t

/-- Where it was put there is the entry; everything else stays. -/
theorem get?_put {t : FileTree} {name : String} {folder : Place} (entry : Entry)
    (h : t.get? folder = some .folder) (h' : t.get? (name :: folder) ≠ some .folder)
    (place : Place) :
    (t.put name folder entry).get? place =
      if place = name :: folder then some entry else t.get? place := by
  have hc : t.isFolder folder ∧ ¬ t.isFolder (name :: folder) := by simp [isFolder_iff, h, h']
  rw [put, dif_pos hc]
  exact Entries.get?_insert ..

/-! ### Taking entries away -/

/-- Takes away an entry, with everything that is in it. -/
def remove (t : FileTree) (place : Place) : FileTree where
  entries := t.entries.filter fun p _ => ¬ place <:+ p
  inFolders := by
    intro name folder hs
    rw [Entries.get?_filter] at hs
    have hp : ¬ place <:+ name :: folder := by
      intro hp
      simp [hp] at hs
    have hf : ¬ place <:+ folder := fun hf => hp (hf.trans (List.suffix_cons _ _))
    cases folder with
    | nil => rfl
    | cons n f =>
      rw [Entries.get?_filter]
      simpa [hf] using t.inFolders name _ (by simpa [hp] using hs)
  rootUnnamed := by simp [t.rootUnnamed]

/-- Nothing is left at a place that was cleared or in it; everything else stays. -/
theorem get?_remove (t : FileTree) (place : Place) {p : Place} (h : p ≠ []) :
    (t.remove place).get? p = if place <:+ p then none else t.get? p := by
  cases p with
  | nil => exact absurd rfl h
  | cons n f =>
    refine (Entries.get?_filter ..).trans ?_
    by_cases hp : place <:+ n :: f <;> simp [hp, get?]

end FileTree

end ReleaseArtifacts
