import ReleaseArtifacts.Proofs.FileTree.Growth

namespace ReleaseArtifacts.FileTree

/-!
# Links decide where steps lead

Folders and files on the way only decide whether steps lead anywhere at all.

* `SameLinks` — two trees with the same links.
* `Leads.eq_of_sameLinks` — steps that lead somewhere in both of them lead to the same place.
* `Leads.of_found` — where a file could be created and one is, the steps lead to that one.
-/

open ReleaseArtifacts.Path (Step)

variable {t t' t'' : FileTree} {creating creating' : Bool} {place p q : Place} {steps : List Step}
  {n m : Nat}

/-- Two trees with the same links. -/
def SameLinks (t t' : FileTree) : Prop :=
  ∀ place target, t.get? place = some (.link target) ↔ t'.get? place = some (.link target)

namespace SameLinks

theorem symm (h : SameLinks t t') : SameLinks t' t := fun place target => (h place target).symm

theorem trans (h : SameLinks t t') (h' : SameLinks t' t'') : SameLinks t t'' :=
  fun place target => (h place target).trans (h' place target)

end SameLinks

/-- No links come and none go while a tree grows. -/
theorem Grows.sameLinks (h : Grows t t') : SameLinks t t' := h.link

/-- **Where steps lead depends on the links alone**, as long as they lead anywhere: what else is on
    the way, and whether a file is to be created, does not matter. -/
theorem Leads.eq_of_sameLinks (h : t.Leads creating place steps n p)
    (h' : t'.Leads creating' place steps m q) (hlinks : SameLinks t t') : p = q := by
  -- What is a link in one of the trees cannot be anything else in the other one.
  have hkeeps : ∀ {place target}, t.get? place = some (.link target) →
      t'.get? place = some (.link target) := fun hlink => (hlinks _ _).mp hlink
  have hcomes : ∀ {place target}, t'.get? place = some (.link target) →
      t.get? place = some (.link target) := fun hlink => (hlinks _ _).mpr hlink
  induction h generalizing m with
  | here => cases h'; rfl
  | move _ moves _ ih =>
    cases h' with
    | move _ moves' on' =>
      obtain rfl := Option.some.inj (moves.symm.trans moves')
      exact ih on'
    | fresh | down | link => exact absurd moves (by simp [unnamed])
  | fresh _ _ _ missing =>
    cases h' with
    | move _ moves' => exact absurd moves' (by simp [unnamed])
    | fresh => rfl
    | down _ _ _ _ _ on' => cases on'; rfl
    | link _ _ _ found' => exact absurd (missing.symm.trans (hcomes found')) (by simp)
  | down _ _ _ found plain on ih =>
    cases h' with
    | move _ moves' => exact absurd moves' (by simp [unnamed])
    | fresh => cases on; rfl
    | down _ _ _ _ _ on' => exact ih on'
    | link _ _ _ found' =>
      exact absurd (Option.some.inj (found.symm.trans (hcomes found'))) (plain _)
  | link _ _ _ found on ih =>
    cases h' with
    | move _ moves' => exact absurd moves' (by simp [unnamed])
    | fresh _ _ _ missing' => exact absurd (missing'.symm.trans (hkeeps found)) (by simp)
    | down _ _ _ found' plain' =>
      exact absurd (Option.some.inj (found'.symm.trans (hkeeps found))) (plain' _)
    | link _ _ _ found' on' =>
      obtain ⟨rfl⟩ := Option.some.inj (found'.symm.trans (hkeeps found))
      exact ih on'

/-- Where a file could be created and something is already, the steps lead there. -/
theorem Leads.of_found (h : t.Leads creating place steps n q) (hfound : (t.get? q).isSome) :
    t.Leads false place steps n q := by
  induction h with
  | here => exact .here _
  | move folder moves _ ih => exact .move folder moves (ih hfound)
  | fresh _ _ _ missing => exact absurd hfound (by simp [missing])
  | down folder short _ found plain _ ih =>
    exact .down folder short (by simp) found plain (ih hfound)
  | link folder short _ found _ ih => exact .link folder short (by simp) found (ih hfound)

end ReleaseArtifacts.FileTree
