import ReleaseArtifacts.Proofs.Profile.Arrangement

namespace ReleaseArtifacts.Profile

/-!
# Reading undoes writing

* `Arranges.parse_eq` — a text that writes a profile in any order is read as the profile, and the
  rules are checked.
* `exists_parse_eq_ok` — there is a text for every profile that keeps the rules.
* `parse_arranged` — what is read does not depend on the order.
-/

open Toml (Section Layout)

variable {p : Profile} {layout : Layout}

namespace Arranges

/-! ### The keys of a written profile -/

/-- No key needs quotes. -/
theorem plain (h : Arranges layout p) : layout.Plain where
  root := by
    have hall : ∀ e ∈ p.rootEntries, Toml.Bare e.1 := by
      rw [rootEntries]
      split <;> simp [Toml.Bare, Toml.isBareKey]
    exact h.forall_root hall
  sections := by
    refine h.forall_sections (fun s t hst => ?_) ?_
    · have hkeys : (∀ e ∈ s.entries, Toml.Bare e.1) ↔ ∀ e ∈ t.entries, Toml.Bare e.1 :=
        forall_congr' fun e => by rw [hst.entries.mem_iff]
      constructor
      · rintro ⟨hname, hs⟩
        exact ⟨hst.name ▸ hname, hkeys.mp hs⟩
      · rintro ⟨hname, ht⟩
        exact ⟨hst.name ▸ hname, hkeys.mpr ht⟩
    · intro t ht
      rcases mem_sections.mp ht with rfl | rfl | rfl | ⟨l, -, rfl⟩ <;> constructor <;>
        simp [headEntries, runtimeEntries, testEntries, launcherEntries, Toml.Bare, Toml.isBareKey]

/-- No key is defined twice. -/
theorem distinct (h : Arranges layout p) : layout.Distinct where
  root := (h.root.map Prod.fst).nodup_iff.mpr p.nodup_rootEntries
  entries := by
    refine h.forall_sections (fun s t hst => (hst.entries.map Prod.fst).nodup_iff) ?_
    simp [tableSections, launcherSections, headEntries, runtimeEntries, testEntries,
      launcherEntries]
  apart := by
    refine h.forall_sections (fun s t hst => by rw [hst.name]) ?_
    intro t ht
    rw [(h.root.map Prod.fst).mem_iff, rootEntries]
    rcases mem_sections.mp ht with rfl | rfl | rfl | ⟨l, hl, rfl⟩
    case inr.inr.inr =>
      -- A launcher has a section, so their list is no entry of the root.
      rw [if_neg (List.ne_nil_of_mem hl)]
      simp
    all_goals split <;> simp
  compatible := by
    obtain ⟨order, hperm, -, hall⟩ := h.sections
    have horder : order.Pairwise Section.Compatible :=
      (hperm.pairwise_iff Section.Compatible.symm).mpr p.compatible_sections
    exact compatible_of_reorders hall horder

/-! ### Texts -/

/-- **The document of a profile is read as the profile,** whatever the order. -/
theorem parse_eq {text : String} (h : Arranges layout p) (hwrites : layout.Writes text) :
    parse text = p.checked := by
  obtain ⟨table, hparse, hnodup, hlookup⟩ := hwrites.exists_table h.plain h.distinct
  obtain ⟨hall, hholds⟩ := h.fits_and_holds
  -- Every key stands for what the layout says, and that is a profile's root table.
  have hget : (table.lookup ·) = layout.value? := funext hlookup
  have hfits : FitsTable profileFields table := by
    refine .of_lookup hnodup ?_ ?_
    · intro e he
      have hvalue : layout.value? e.1 = some e.2 := by
        rw [← hlookup, lookup_eq_some_iff_mem hnodup]
        exact he
      exact h.name_mem hvalue
    · simpa only [hlookup] using hall
  have htable : ofTable table = .ok p := by
    rw [ofTable_eq_ok_iff, hget]
    exact ⟨hfits, hholds⟩
  rw [parse, hparse]
  simp only [htable]

/-- Every arrangement of a profile can be written. -/
theorem exists_writes (h : Arranges layout p) : ∃ text, layout.Writes text := by
  have hstring (s : String) : ∃ text, Toml.Writes (.string s) text := by
    obtain ⟨text, htext⟩ := Toml.exists_quotes s
    exact ⟨text, .string htext⟩
  have hflag (b : Bool) : ∃ text, Toml.Writes (.boolean b) text := ⟨_, .flag b⟩
  have hnone : ∃ text, Toml.Writes (.array []) text := Toml.exists_writes_strings []
  refine Layout.exists_writes ?_ ?_
  · have hall : ∀ e ∈ p.rootEntries, ∃ text, Toml.Writes e.2 text := by
      rw [rootEntries]
      split <;> simp [hstring, hnone, textArray, Toml.exists_writes_strings]
    exact h.forall_root hall
  · refine h.forall_sections (fun s t hst => forall_congr' fun e => by rw [hst.entries.mem_iff]) ?_
    intro t ht
    rcases mem_sections.mp ht with rfl | rfl | rfl | ⟨l, -, rfl⟩ <;>
      simp [headEntries, runtimeEntries, testEntries, launcherEntries, hstring, hflag]

end Arranges

/-- The entries in the order of the profile itself. -/
theorem arranges_self (p : Profile) :
    Arranges ⟨p.rootEntries, p.tableSections ++ p.launcherSections⟩ p where
  root := .refl _
  sections := by
    refine ⟨_, .refl _, ?_, List.forall₂_same.mpr fun s _ => ⟨rfl, rfl, .refl _⟩⟩
    have htables : p.tableSections.filter (·.repeated) = [] := rfl
    have hlaunchers : p.launcherSections.filter (·.repeated) = p.launcherSections :=
      List.filter_eq_self.mpr (by simp [launcherSections])
    rw [List.filter_append, htables, hlaunchers, List.nil_append]

/-- Every profile that keeps the rules is held by a text. -/
theorem exists_parse_eq_ok (h : p.Valid) : ∃ text, parse text = .ok p := by
  obtain ⟨text, hwrites⟩ := (arranges_self p).exists_writes
  refine ⟨text, ?_⟩
  rw [(arranges_self p).parse_eq hwrites, checked, (defect?_eq_none_iff p).mpr h]

/-- **Reading undoes writing, in any order.**  A text that has everything a profile says, with its
    keys and sections in any order that keeps the launchers in theirs, is read as the profile if it
    keeps the rules, and refused for the first rule that it breaks if not.  Another text that does
    so is read as the same. -/
theorem parse_arranged {text : String} (h : Arranges layout p) (hwrites : layout.Writes text) :
    (p.Valid → parse text = .ok p) ∧
    (∀ d, p.defect? = some d → parse text = .error (.rule d)) ∧
    ∀ layout' text', Arranges layout' p → layout'.Writes text' → parse text' = parse text := by
  have hparse := h.parse_eq hwrites
  refine ⟨fun hvalid => ?_, fun d hd => ?_, fun layout' text' h' hwrites' => ?_⟩
  · rw [hparse, checked, (defect?_eq_none_iff p).mpr hvalid]
  · rw [hparse, checked, hd]
  · rw [hparse, h'.parse_eq hwrites']

/-- A profile with two launchers, and with marks and a control in its description. -/
def specimen : Profile where
  className := "Box"
  desc := "\"\\\x01"
  homepage := ""
  license := "MIT"
  head := ⟨"git", "main"⟩
  buildDependencies := []
  binaries := ["a", "b"]
  runtime := ⟨".box", "DB", "é.db"⟩
  launchers := [⟨"one", "b", "", true⟩, ⟨"two", "a", "second", false⟩]
  test := ⟨"one", "ok"⟩

/-- Its sections, with a launcher before the tables and one after them. -/
def specimenOrder : List Section :=
  specimen.launcherSections.take 1 ++ (specimen.tableSections ++ specimen.launcherSections.drop 1)

/-- It in this order, with the keys of each table from the last to the first. -/
def specimenLayout : Layout where
  root := specimen.rootEntries.reverse
  sections := specimenOrder.map fun s => { s with entries := s.entries.reverse }

def specimenText : String :=
  "binaries = [\"a\", \"b\"]\n" ++ "build_dependencies = []\n" ++ "license = \"MIT\"\n" ++
  "homepage = \"\"\n" ++ "desc = \"\\\"\\u005C\\u0001\"\n" ++ "class_name = \"Box\"\n" ++
  "[[launchers]]\n" ++ "pass_db = true\n" ++ "summary = \"\"\n" ++ "binary = \"b\"\n" ++
  "name = \"one\"\n" ++ "[head]\n" ++ "branch = \"main\"\n" ++ "url = \"git\"\n" ++
  "[runtime]\n" ++ "db_file = \"é.db\"\n" ++ "db_env = \"DB\"\n" ++ "home_dir = \".box\"\n" ++
  "[test]\n" ++ "expect = \"ok\"\n" ++ "command = \"one\"\n" ++
  "[[launchers]]\n" ++ "pass_db = false\n" ++ "summary = \"second\"\n" ++ "binary = \"a\"\n" ++
  "name = \"two\"\n"

theorem specimenLayout_arranges : Arranges specimenLayout specimen where
  root := List.reverse_perm _
  sections := by
    refine ⟨specimenOrder, ?_, rfl, ?_⟩
    · refine (List.perm_append_comm_assoc _ _ _).trans ?_
      rw [List.take_append_drop]
    · rw [specimenLayout, List.forall₂_map_left_iff, List.forall₂_same]
      exact fun s _ => ⟨rfl, rfl, List.reverse_perm _⟩

theorem specimenLayout_writes : specimenLayout.Writes specimenText := by
  have hplain {s : String} (h : (s.toList.all fun c => c ≠ '"' ∧ c ≠ '\\' ∧ 0x20 ≤ c.toNat ∧
      c.toNat ≠ 0x7f) = true) : Toml.Writes (.string s) ('"' :: (s.toList ++ ['"'])) :=
    .string (.plain (by simpa using h))
  have hdesc : Toml.SpellsAll specimen.desc.toList (['\\', '"'] ++
      (['\\', 'u', '0', '0', '5', 'C'] ++ (['\\', 'u', '0', '0', '0', '1'] ++ []))) := by
    refine .cons (.marked (.inl rfl)) <|
      .cons (.code ?_ (.inl rfl) (.inl rfl) (.inl rfl) (.inr rfl)) <|
      .cons (.code ?_ (.inl rfl) (.inl rfl) (.inl rfl) (.inl rfl)) .nil <;> decide
  have hroot : Toml.WritesEntries specimenLayout.root _ :=
    .cons (.strings <| .cons (.plain (by simp)) <| .cons (.plain (by simp)) .nil) <|
    .cons (.strings .nil) <| .cons (hplain rfl) <| .cons (hplain rfl) <|
    .cons (.string (.intro hdesc)) <| .cons (hplain rfl) .nil
  have hsections : Toml.WritesSections specimenLayout.sections _ :=
    .cons (.cons (.flag true) <| .cons (hplain rfl) <| .cons (hplain rfl) <|
      .cons (hplain rfl) .nil) <|
    .cons (.cons (hplain rfl) <| .cons (hplain rfl) .nil) <|
    .cons (.cons (hplain rfl) <| .cons (hplain rfl) <| .cons (hplain rfl) .nil) <|
    .cons (.cons (hplain rfl) <| .cons (hplain rfl) .nil) <|
    .cons (.cons (.flag false) <| .cons (hplain rfl) <| .cons (hplain rfl) <|
      .cons (hplain rfl) .nil) .nil
  refine .intro hroot hsections ?_
  -- Line by line: decoding the whole text at once would take long.
  delta specimenText
  simp only [String.toList_append]
  decide +kernel

theorem parse_arranged_specimen : Arranges specimenLayout specimen ∧
    specimenLayout.Writes specimenText ∧ parse specimenText = .ok specimen := by
  have hvalid : specimen.Valid := by constructor <;> simp [specimen]
  exact ⟨specimenLayout_arranges, specimenLayout_writes,
    (parse_arranged specimenLayout_arranges specimenLayout_writes).1 hvalid⟩

end ReleaseArtifacts.Profile
