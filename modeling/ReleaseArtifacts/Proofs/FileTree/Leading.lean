import ReleaseArtifacts.FileTree.Walk
import Mathlib

namespace ReleaseArtifacts.FileTree

/-!
# Where steps lead

The rules by which steps lead from one place of a tree to another, and walks as a way to follow
them.

* `Leads` — steps lead from a place to a place, through so many links.
* `Leads.append`, `Leads.exists_between` — the rules compose along the steps.
* `walk_eq_ok_iff` — a walk ends where its steps lead, if that is not through too many links.
* `Leads.walk_append` — also a walk that fails goes on from where its first steps lead.
-/

open ReleaseArtifacts.Path (Step)

variable {t : FileTree} {creating : Bool} {place p q : Place} {a b rest : List Step}
  {n m links : Nat} {name : String}

/-! ### Rules -/

/-- Where a step leads that names no entry. -/
def unnamed (place : Place) : Step → Option Place
  | .stay => some place
  | .slash => some place
  | .up => some place.tail
  | .down _ => none

/-- Steps lead from one place to another, through so many links.  Every step is taken in a folder;
    a link stands for the steps that it holds, taken where it is or at the root.  If a file is to be
    created, what the last step names may be missing, but no slash may come after it. -/
inductive Leads (t : FileTree) (creating : Bool) : Place → List Step → Nat → Place → Prop
  | here (place : Place) : Leads t creating place [] 0 place
  | move {place p q : Place} {step : Step} {rest : List Step} {n : Nat}
      (folder : t.get? place = some .folder) (moves : unnamed place step = some p)
      (on : Leads t creating p rest n q) : Leads t creating place (step :: rest) n q
  | fresh {place : Place} {name : String} (folder : t.get? place = some .folder)
      (short : name.utf8ByteSize ≤ nameLimit) (creates : creating = true)
      (missing : t.get? (name :: place) = none) :
      Leads t creating place [.down name] 0 (name :: place)
  | down {place q : Place} {rest : List Step} {n : Nat} {name : String} {entry : Entry}
      (folder : t.get? place = some .folder) (short : name.utf8ByteSize ≤ nameLimit)
      (noSlash : ¬ (creating = true ∧ rest = [.slash]))
      (found : t.get? (name :: place) = some entry) (plain : ∀ target, entry ≠ .link target)
      (on : Leads t creating (name :: place) rest n q) :
      Leads t creating place (.down name :: rest) n q
  | link {place q : Place} {rest : List Step} {n : Nat} {name target : String}
      (folder : t.get? place = some .folder) (short : name.utf8ByteSize ≤ nameLimit)
      (noSlash : ¬ (creating = true ∧ rest = [.slash]))
      (found : t.get? (name :: place) = some (.link target))
      (on : Leads t creating (startOf target place) (Path.steps target ++ rest) n q) :
      Leads t creating place (.down name :: rest) (n + 1) q

/-! ### Composing -/

/-- Only a slash and nothing at all end with a slash that stands alone. -/
theorem append_ne_slash (hb : creating = true → b ≠ [] ∧ b ≠ [.slash]) (rest : List Step) :
    ¬ (creating = true ∧ rest ++ b = [.slash]) := by
  rintro ⟨hc, hs⟩
  rcases List.append_eq_singleton_iff.mp hs with ⟨-, h⟩ | ⟨-, h⟩
  · exact (hb hc).2 h
  · exact (hb hc).1 h

/-- What the first steps lead to is where the others start.  Where a file is to be created there
    have to be others that are more than a final slash. -/
theorem Leads.append (h : t.Leads false place a n p) (h' : t.Leads creating p b m q)
    (hb : creating = true → b ≠ [] ∧ b ≠ [.slash]) : t.Leads creating place (a ++ b) (n + m) q := by
  induction h with
  | here => simpa using h'
  | move folder moves _ ih => exact .move folder moves (ih h')
  | fresh _ _ creates => exact absurd creates Bool.false_ne_true
  | down folder short _ found plain _ ih =>
    exact .down folder short (append_ne_slash hb _) found plain (ih h')
  | link folder short _ found _ ih =>
    rw [Nat.add_right_comm]
    exact .link folder short (append_ne_slash hb _) found (List.append_assoc .. ▸ ih h')

private theorem Leads.exists_between_of_eq {steps : List Step} (h : t.Leads false place steps n q) :
    ∀ a, steps = a ++ b →
      ∃ p k m, t.Leads false place a k p ∧ t.Leads false p b m q ∧ k + m = n := by
  -- Either the cut is before the first step, or the induction cuts what comes after that step.
  induction h with
  | here place =>
    intro a hsteps
    obtain ⟨rfl, rfl⟩ := List.append_eq_nil_iff.mp hsteps.symm
    exact ⟨place, 0, 0, .here _, .here _, rfl⟩
  | move folder moves on ih =>
    intro a hsteps
    rcases List.cons_eq_append_iff.mp hsteps with ⟨rfl, rfl⟩ | ⟨a, rfl, hrest⟩
    · exact ⟨_, 0, _, .here _, .move folder moves on, Nat.zero_add _⟩
    · obtain ⟨p, k, m, ha, hb, hn⟩ := ih a hrest
      exact ⟨p, k, m, .move folder moves ha, hb, hn⟩
  | fresh _ _ creates => exact absurd creates Bool.false_ne_true
  | down folder short noSlash found plain on ih =>
    intro a hsteps
    rcases List.cons_eq_append_iff.mp hsteps with ⟨rfl, rfl⟩ | ⟨a, rfl, hrest⟩
    · exact ⟨_, 0, _, .here _, .down folder short noSlash found plain on, Nat.zero_add _⟩
    · obtain ⟨p, k, m, ha, hb, hn⟩ := ih a hrest
      exact ⟨p, k, m, .down folder short (by simp) found plain ha, hb, hn⟩
  | @link _ _ _ _ _ target folder short noSlash found on ih =>
    intro a hsteps
    rcases List.cons_eq_append_iff.mp hsteps with ⟨rfl, rfl⟩ | ⟨a, rfl, hrest⟩
    · exact ⟨_, 0, _, .here _, .link folder short noSlash found on, Nat.zero_add _⟩
    · -- The steps of the link come before the cut.
      obtain ⟨p, k, m, ha, hb, hn⟩ := ih (Path.steps target ++ a) (by rw [hrest, List.append_assoc])
      exact ⟨p, k + 1, m, .link folder short (by simp) found ha, hb, by omega⟩

/-- Some place is where the first steps lead. -/
theorem Leads.exists_between (h : t.Leads false place (a ++ b) n q) :
    ∃ p k m, t.Leads false place a k p ∧ t.Leads false p b m q ∧ k + m = n :=
  h.exists_between_of_eq a rfl

/-- A step is taken in a folder. -/
theorem Leads.folder_of_ne_nil (h : t.Leads creating place a n q) (ha : a ≠ []) :
    t.get? place = some .folder := by
  cases h with
  | here => exact absurd rfl ha
  | move folder => exact folder
  | fresh folder => exact folder
  | down folder => exact folder
  | link folder => exact folder

/-- A folder is in a folder. -/
theorem get?_tail (h : t.get? place = some .folder) : t.get? place.tail = some .folder := by
  cases place with
  | nil => exact h
  | cons name folder =>
    have hfound : (t.get? (name :: folder)).isSome := by rw [h]; rfl
    exact get?_of_isSome hfound

/-- What an unnamed step leads to is a folder. -/
theorem get?_of_unnamed {step : Step} (h : t.get? place = some .folder)
    (hmoves : unnamed place step = some p) : t.get? p = some .folder := by
  cases step with
  | down name => exact absurd hmoves (by simp [unnamed])
  | stay => exact Option.some.inj hmoves ▸ h
  | slash => exact Option.some.inj hmoves ▸ h
  | up => exact Option.some.inj hmoves ▸ get?_tail h

/-- The steps of a link start in a folder. -/
theorem get?_startOf (target : String) (h : t.get? place = some .folder) :
    t.get? (startOf target place) = some .folder := by
  rw [startOf]
  split
  · rfl
  · exact h

/-- Steps lead to a file or a folder, or, if a file is to be created, to where there is room for it
    in a folder. -/
theorem Leads.lands (h : t.Leads creating place a n q) (hplace : t.get? place = some .folder) :
    (∃ entry, t.get? q = some entry ∧ ∀ target, entry ≠ .link target) ∨
      (t.get? q = none ∧ ∃ name folder, q = name :: folder ∧ t.get? folder = some .folder) := by
  -- On the way there may be a file, where the steps have to end.
  suffices hall : ∀ entry, t.get? place = some entry → (∀ target, entry ≠ .link target) →
      (∃ entry, t.get? q = some entry ∧ ∀ target, entry ≠ .link target) ∨
        (t.get? q = none ∧ ∃ name folder, q = name :: folder ∧ t.get? folder = some .folder) from
    hall _ hplace (by simp)
  clear hplace
  induction h with
  | here => exact fun entry hfound hplain => .inl ⟨entry, hfound, hplain⟩
  | move folder moves _ ih =>
    exact fun _ _ _ => ih _ (get?_of_unnamed folder moves) (by simp)
  | fresh folder _ _ missing => exact fun _ _ _ => .inr ⟨missing, _, _, rfl, folder⟩
  | down _ _ _ found plain _ ih => exact fun _ _ _ => ih _ found plain
  | link folder _ _ _ _ ih => exact fun _ _ _ => ih _ (get?_startOf _ folder) (by simp)

/-! ### Walking -/

/-- A step that names no entry. -/
theorem walk_move {step : Step} (creating : Bool) (links : Nat) (rest : List Step)
    (h : t.get? place = some .folder) (hmoves : unnamed place step = some p) :
    t.walk creating links place (step :: rest) = t.walk creating links p rest := by
  cases step with
  | down name => exact absurd hmoves (by simp [unnamed])
  | stay => obtain rfl := Option.some.inj hmoves; rw [walk, if_pos (isFolder_iff.mpr h)]
  | slash => obtain rfl := Option.some.inj hmoves; rw [walk, if_pos (isFolder_iff.mpr h)]
  | up => obtain rfl := Option.some.inj hmoves; rw [walk, if_pos (isFolder_iff.mpr h)]

/-- A step that names an entry. -/
theorem walk_down (links : Nat) (h : t.get? place = some .folder)
    (hshort : name.utf8ByteSize ≤ nameLimit) (hslash : ¬ (creating = true ∧ rest = [.slash])) :
    t.walk creating links place (.down name :: rest) =
      match t.get? (name :: place) with
      | none => if creating ∧ rest = [] then .ok (name :: place) else .error .missing
      | some (.link target) =>
        if links = 0 then .error .tooManyLinks
        else t.walk creating (links - 1) (startOf target place) (Path.steps target ++ rest)
      | some _ => t.walk creating links (name :: place) rest := by
  rewrite [walk, if_pos (isFolder_iff.mpr h), if_neg hslash, if_neg (Nat.not_lt_of_le hshort)]
  cases t.get? (name :: place) with
  | none => rfl
  | some entry => cases entry <;> rfl

/-- A step to a file or a folder. -/
theorem walk_down_plain {entry : Entry} (links : Nat) (h : t.get? place = some .folder)
    (hshort : name.utf8ByteSize ≤ nameLimit) (hslash : ¬ (creating = true ∧ rest = [.slash]))
    (hfound : t.get? (name :: place) = some entry) (hplain : ∀ target, entry ≠ .link target) :
    t.walk creating links place (.down name :: rest) =
      t.walk creating links (name :: place) rest := by
  rw [walk_down links h hshort hslash, hfound]
  cases entry with
  | file => rfl
  | folder => rfl
  | link target => exact absurd rfl (hplain target)

/-- A step to a link. -/
theorem walk_down_link {target : String} (links : Nat) (h : t.get? place = some .folder)
    (hshort : name.utf8ByteSize ≤ nameLimit) (hslash : ¬ (creating = true ∧ rest = [.slash]))
    (hfound : t.get? (name :: place) = some (.link target)) :
    t.walk creating (links + 1) place (.down name :: rest) =
      t.walk creating links (startOf target place) (Path.steps target ++ rest) := by
  rw [walk_down _ h hshort hslash, hfound]
  rfl

/-- No step is taken outside a folder. -/
theorem walk_of_not_folder (creating : Bool) (links : Nat) (step : Step) (rest : List Step)
    (h : t.get? place ≠ some .folder) :
    t.walk creating links place (step :: rest) = .error .notFolder := by
  cases step <;> rw [walk, if_neg (mt isFolder_iff.mp h)]

/-- **A walk goes on from where its first steps lead.** -/
theorem Leads.walk_append (h : t.Leads false place a n p) (links : Nat) :
    t.walk false (links + n) place (a ++ b) = t.walk false links p b := by
  induction h with
  | here => rfl
  | move folder moves _ ih => rw [List.cons_append, walk_move _ _ _ folder moves, ih]
  | fresh _ _ creates => exact absurd creates Bool.false_ne_true
  | down folder short _ found plain _ ih =>
    rw [List.cons_append, walk_down_plain _ folder short (by simp) found plain, ih]
  | link folder short _ found _ ih =>
    rw [List.cons_append, ← Nat.add_assoc, walk_down_link _ folder short (by simp) found,
      ← List.append_assoc, ih]

/-- A walk follows the rules. -/
theorem Leads.walk_eq (h : t.Leads creating place a n q) (links : Nat) :
    t.walk creating (links + n) place a = .ok q := by
  induction h with
  | here => rw [walk]
  | move folder moves _ ih => rw [walk_move _ _ _ folder moves, ih]
  | fresh folder short creates missing =>
    rw [walk_down _ folder short (by simp), missing]
    exact if_pos ⟨creates, rfl⟩
  | down folder short noSlash found plain _ ih =>
    rw [walk_down_plain _ folder short noSlash found plain, ih]
  | link folder short noSlash found _ ih =>
    rw [← Nat.add_assoc, walk_down_link _ folder short noSlash found, ih]

/-- The rules that a walk has followed. -/
theorem exists_leads_of_walk (h : t.walk creating links place a = .ok q) :
    ∃ n ≤ links, t.Leads creating place a n q := by
  fun_induction walk t creating links place a with
  | case1 links place =>
    obtain rfl := Except.ok.inj h
    exact ⟨0, Nat.zero_le _, .here _⟩
  | case2 links place rest hfolder ih =>
    obtain ⟨n, hn, on⟩ := ih h
    exact ⟨n, hn, .move (isFolder_iff.mp hfolder) rfl on⟩
  | case3 links place rest hfolder ih =>
    obtain ⟨n, hn, on⟩ := ih h
    exact ⟨n, hn, .move (isFolder_iff.mp hfolder) rfl on⟩
  | case4 links place rest hfolder ih =>
    obtain ⟨n, hn, on⟩ := ih h
    exact ⟨n, hn, .move (isFolder_iff.mp hfolder) rfl on⟩
  | case7 links place rest hfolder name _ hshort hmissing hlast =>
    obtain rfl := Except.ok.inj h
    obtain ⟨hcreating, rfl⟩ := hlast
    exact ⟨0, Nat.zero_le _, .fresh (isFolder_iff.mp hfolder) (Nat.le_of_not_lt hshort) hcreating
      hmissing⟩
  | case10 links place rest hfolder name hslash hshort target hfound hlinks ih =>
    obtain ⟨n, hn, on⟩ := ih h
    exact ⟨n + 1, by omega, .link (isFolder_iff.mp hfolder) (Nat.le_of_not_lt hshort) hslash hfound
      on⟩
  | case11 links place rest hfolder name hslash hshort entry hplain hfound ih =>
    obtain ⟨n, hn, on⟩ := ih h
    exact ⟨n, hn, .down (isFolder_iff.mp hfolder) (Nat.le_of_not_lt hshort) hslash hfound hplain on⟩
  | case5 | case6 | case8 | case9 | case12 => exact nomatch h

/-- **Walks and where they lead.**  A walk ends where its steps lead, if that is not through too
    many links. -/
theorem walk_eq_ok_iff :
    t.walk creating links place a = .ok q ↔ ∃ n ≤ links, t.Leads creating place a n q := by
  refine ⟨exists_leads_of_walk, fun ⟨n, hn, h⟩ => ?_⟩
  have hwalk := h.walk_eq (links - n)
  rwa [Nat.sub_add_cancel hn] at hwalk

end ReleaseArtifacts.FileTree
