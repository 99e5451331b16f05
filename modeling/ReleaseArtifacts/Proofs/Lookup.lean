import Mathlib

namespace ReleaseArtifacts

/-!
# Looking up keys

A table is a list of keys with their values, and the first entry of a key counts.

* `mem_of_lookup`, `exists_lookup_of_mem` — what is looked up is an entry, and an entry is found.
* `lookup_eq_some_iff_mem` — without repeated keys, the two say the same.
-/

variable {κ α : Type} [BEq κ] [LawfulBEq κ] {entries entries' : List (κ × α)} {key : κ} {v : α}

theorem mem_of_lookup (h : entries.lookup key = some v) : (key, v) ∈ entries := by
  obtain ⟨before, after, rfl, -⟩ := List.lookup_eq_some_iff.mp h
  simp

theorem exists_lookup_of_mem (h : (key, v) ∈ entries) : ∃ w, entries.lookup key = some w := by
  rw [← Option.isSome_iff_exists, List.lookup_isSome_iff]
  exact ⟨(key, v), h, by simp⟩

theorem lookup_eq_none_of_notMem (h : key ∉ entries.map Prod.fst) : entries.lookup key = none := by
  rw [Option.eq_none_iff_forall_ne_some]
  intro v hv
  exact h (List.mem_map.mpr ⟨(key, v), mem_of_lookup hv, rfl⟩)

/-- Without repeated keys there is one entry for each. -/
theorem lookup_eq_some_iff_mem (hnodup : (entries.map Prod.fst).Nodup) :
    entries.lookup key = some v ↔ (key, v) ∈ entries := by
  refine ⟨mem_of_lookup, fun h => ?_⟩
  obtain ⟨w, hw⟩ := exists_lookup_of_mem h
  have heq : (key, w) = (key, v) := List.inj_on_of_nodup_map hnodup (mem_of_lookup hw) h rfl
  rw [hw, ← (Prod.mk.inj heq).2]

/-- The order of entries does not matter if no key is repeated. -/
theorem lookup_perm (h : entries.Perm entries') (hnodup : (entries.map Prod.fst).Nodup) :
    entries.lookup key = entries'.lookup key := by
  have hnodup' : (entries'.map Prod.fst).Nodup := (h.map Prod.fst).nodup_iff.mp hnodup
  ext w
  rw [lookup_eq_some_iff_mem hnodup, h.mem_iff, lookup_eq_some_iff_mem hnodup']

end ReleaseArtifacts
