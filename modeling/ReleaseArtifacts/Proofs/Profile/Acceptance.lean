import ReleaseArtifacts.Proofs.Profile.Decoding
import ReleaseArtifacts.Proofs.Profile.Package

namespace ReleaseArtifacts.Profile

/-!
# Which texts hold a profile

A text holds a profile exactly if it is a document, its root table conforms, and the rules are kept;
the profile is then what the document says.

* `decodes_profile` — the decoder of the root table, assembled from those of its records.
* `ofTable_eq_ok_iff` — the same about `ofTable`, with `Conforms` and `HoldsProfile`.
* `valid_iff_keepsRules` — the rules of a profile are the rules of the document that holds it.
* `parse_accepts` — which texts are accepted, and what they hold.
-/

open Toml (Value Table)

/-! ### The root table -/

theorem profileForm_checks : profileForm.Checks profileFields where
  each :=
    .cons ⟨rfl, decodes_text.checking_iff⟩ <| .cons ⟨rfl, decodes_text.checking_iff⟩ <|
    .cons ⟨rfl, decodes_text.checking_iff⟩ <| .cons ⟨rfl, decodes_text.checking_iff⟩ <|
    .cons ⟨rfl, decodes_head.checking_iff⟩ <| .cons ⟨rfl, decodes_text.list.checking_iff⟩ <|
    .cons ⟨rfl, decodes_text.list.checking_iff⟩ <| .cons ⟨rfl, decodes_runtime.checking_iff⟩ <|
    .cons ⟨rfl, decodes_launcher.list.checking_iff⟩ <| .cons ⟨rfl, decodes_test.checking_iff⟩ .nil
  nodup := by decide

theorem decodes_profile : Decodes profile (IsRecord profileFields)
    (fun v p => HoldsProfile (given profileFields v) p) := by
  refine RecordOf.decodes ⟨profileForm_checks, by decide, ?build, ?complete, ?holds⟩
    "FormulaProfile"
  case build =>
    intro e p hfits
    have hat {i : Nat} {f : Field} (hf : profileFields[i]? = some f) (v : Value)
        (hv : e.entries.lookup f.name = some v) : f.Fits v := hfits f (List.mem_of_getElem? hf) v hv
    simp only [bind_eq_ok_iff, required_text_iff, required_texts_iff, optional_texts_iff,
      decodes_head.required_iff (hat (i := 4) rfl), decodes_runtime.required_iff (hat (i := 7) rfl),
      decodes_launcher.list.required_iff (hat (i := 8) rfl),
      decodes_test.required_iff (hat (i := 9) rfl)]
    constructor
    · rintro ⟨className, hclass, desc, hdesc, homepage, hpage, license, hlicense, head, hhead,
        dependencies, hdependencies, binaries, hbinaries, runtime, hruntime, launchers,
        ⟨_, hlaunchers, items, rfl, hitems⟩, test, htest, ⟨⟩⟩
      exact ⟨hclass, hdesc, hpage, hlicense, hhead, hdependencies, hbinaries, hruntime,
        ⟨items, hlaunchers, hitems⟩, htest⟩
    · rintro ⟨hclass, hdesc, hpage, hlicense, hhead, hdependencies, hbinaries, hruntime,
        ⟨items, hlaunchers, hitems⟩, htest⟩
      exact ⟨_, hclass, _, hdesc, _, hpage, _, hlicense, _, hhead, _, hdependencies, _, hbinaries,
        _, hruntime, _, ⟨_, hlaunchers, items, rfl, hitems⟩, _, htest, rfl⟩
  case complete =>
    rintro get p h
    obtain ⟨head, hhead, -⟩ := h.head
    obtain ⟨runtime, hruntime, -⟩ := h.runtime
    obtain ⟨launchers, hlaunchers, -⟩ := h.launchers
    obtain ⟨test, htest, -⟩ := h.test
    simp [profileFields, h.className, h.desc, h.homepage, h.license, hhead, h.binaries, hruntime,
      hlaunchers, htest]
  case holds =>
    intro get hget
    obtain ⟨className, hclass⟩ := hget.exists_text "class_name" (i := 0) rfl
    obtain ⟨desc, hdesc⟩ := hget.exists_text "desc" (i := 1) rfl
    obtain ⟨homepage, hpage⟩ := hget.exists_text "homepage" (i := 2) rfl
    obtain ⟨license, hlicense⟩ := hget.exists_text "license" (i := 3) rfl
    obtain ⟨v, hhead, hv⟩ := hget.exists_at (i := 4) rfl rfl
    obtain ⟨head, hholdsHead⟩ := decodes_head.exists_holds v hv
    obtain ⟨dependencies, hdependencies⟩ : ∃ ss : List String,
        (get "build_dependencies").getD (.array []) = .array (ss.map .string) := by
      cases hlist : get "build_dependencies" with
      | none => exact ⟨[], rfl⟩
      | some v =>
        exact IsList.exists_texts (hget.known _ (List.mem_of_getElem? (i := 5) rfl) v hlist)
    obtain ⟨v, hbinaries, hv⟩ := hget.exists_at (i := 6) rfl rfl
    obtain ⟨binaries, rfl⟩ := IsList.exists_texts hv
    obtain ⟨v, hruntime, hv⟩ := hget.exists_at (i := 7) rfl rfl
    obtain ⟨runtime, hholdsRuntime⟩ := decodes_runtime.exists_holds v hv
    obtain ⟨v, hlaunchers, hv⟩ := hget.exists_at (i := 8) rfl rfl
    obtain ⟨launchers, items, rfl, hitems⟩ := decodes_launcher.list.exists_holds v hv
    obtain ⟨v, htest, hv⟩ := hget.exists_at (i := 9) rfl rfl
    obtain ⟨test, hholdsTest⟩ := decodes_test.exists_holds v hv
    exact ⟨⟨className, desc, homepage, license, head, dependencies, binaries, runtime, launchers,
      test⟩, hclass, hdesc, hpage, hlicense, ⟨_, hhead, hholdsHead⟩, hdependencies, hbinaries,
      ⟨_, hruntime, hholdsRuntime⟩, ⟨items, hlaunchers, hitems⟩, ⟨_, htest, hholdsTest⟩⟩

/-- **The root table is decoded exactly:** if it conforms, to the profile that it holds. -/
theorem ofTable_eq_ok_iff {table : Table} {p : Profile} :
    ofTable table = .ok p ↔ Conforms table ∧ HoldsProfile (table.lookup ·) p := by
  rw [ofTable, decodes_profile.eq_ok_iff]
  constructor
  · rintro ⟨⟨hfits⟩, hholds⟩
    exact ⟨hfits, hholds⟩
  · rintro ⟨hfits, hholds⟩
    exact ⟨.table hfits, hholds⟩

theorem exists_holdsProfile {table : Table} (h : Conforms table) :
    ∃ p, HoldsProfile (table.lookup ·) p :=
  decodes_profile.exists_holds (.table table) (.table h)

/-! ### Rules -/

/-- Partners agree on what holds of all of them. -/
theorem forall_mem_iff_of_forall₂ {α β : Type} {R : α → β → Prop} {P : α → Prop} {Q : β → Prop}
    {xs : List α} {ys : List β} (h : List.Forall₂ R xs ys) (hiff : ∀ x y, R x y → (P x ↔ Q y)) :
    (∀ x ∈ xs, P x) ↔ ∀ y ∈ ys, Q y := by
  induction h with
  | nil => simp
  | cons hxy _ ih => rw [List.forall_mem_cons, List.forall_mem_cons, hiff _ _ hxy, ih]

/-- The binary of a launcher is among some binaries exactly if its value is among theirs. -/
theorem HoldsLauncher.binary_mem_iff {v : Value} {l : Launcher}
    (h : HoldsLauncher (given launcherFields v) l) (binaries : List String) :
    (∃ b ∈ binaries.map Value.string, given launcherFields v "binary" = some b) ↔
      l.binary ∈ binaries := by
  simp [h.binary, eq_comm]

/-- **The rules of a profile can be read off the document that holds it.** -/
theorem valid_iff_keepsRules {table : Table} {p : Profile} (h : HoldsProfile (table.lookup ·) p) :
    p.Valid ↔ KeepsRules table := by
  obtain ⟨items, hlaunchers, hitems⟩ := h.launchers
  have hbinaries : table.lookup "binaries" = some (.array (p.binaries.map .string)) := h.binaries
  have hlaunchers : table.lookup "launchers" = some (.array items) := hlaunchers
  have htargets := forall_mem_iff_of_forall₂ hitems fun v l hl =>
    hl.binary_mem_iff p.binaries
  have hnone : items = [] ↔ p.launchers = [] := by
    rw [← List.length_eq_zero_iff, hitems.length_eq, List.length_eq_zero_iff]
  constructor
  · rintro ⟨hb, hl, ht⟩
    refine ⟨?_, ?_, ?_⟩
    · simpa [hbinaries] using hb
    · simpa [hlaunchers, hnone] using hl
    · intro bs ls hbs hls
      obtain rfl : p.binaries.map .string = bs := by simpa [hbinaries] using hbs
      obtain rfl : items = ls := by simpa [hlaunchers] using hls
      exact htargets.mpr ht
  · rintro ⟨hb, hl, ht⟩
    refine ⟨?_, ?_, htargets.mp (ht _ _ hbinaries hlaunchers)⟩
    · simpa [hbinaries] using hb
    · simpa [hlaunchers, hnone] using hl

/-! ### Texts -/

/-- A text holds a profile if it is a document, its table is decoded, and the rules are kept. -/
theorem parse_eq_ok_iff {text : String} {p : Profile} :
    parse text = .ok p ↔
      ∃ table, Toml.parse text = some table ∧ ofTable table = .ok p ∧ p.Valid := by
  have hchecked : ∀ q : Profile, q.checked = .ok p ↔ q = p ∧ p.Valid := by
    intro q
    constructor
    · intro h
      obtain ⟨rfl, hvalid⟩ := checked_eq_ok h
      exact ⟨rfl, hvalid⟩
    · rintro ⟨rfl, hvalid⟩
      rw [checked, (defect?_eq_none_iff q).mpr hvalid]
  rw [parse]
  cases Toml.parse text with
  | none => simp
  | some table =>
    cases htable : ofTable table with
    | error cause => simp [htable]
    | ok q => simp [htable, hchecked]

/-- **Which texts are accepted.**  A text holds a profile exactly if it is a document, its root
    table conforms and it keeps the rules; every part of the profile is then what the document has
    for it. -/
theorem parse_accepts (text : String) :
    ((∃ p, parse text = .ok p) ↔
      ∃ table, Toml.parse text = some table ∧ Conforms table ∧ KeepsRules table) ∧
    ∀ p, parse text = .ok p →
      ∃ table, Toml.parse text = some table ∧ HoldsProfile (table.lookup ·) p := by
  simp only [parse_eq_ok_iff, ofTable_eq_ok_iff]
  refine ⟨⟨?_, ?_⟩, ?_⟩
  · rintro ⟨p, table, hparse, ⟨hconforms, hholds⟩, hvalid⟩
    exact ⟨table, hparse, hconforms, (valid_iff_keepsRules hholds).mp hvalid⟩
  · rintro ⟨table, hparse, hconforms, hrules⟩
    obtain ⟨p, hholds⟩ := exists_holdsProfile hconforms
    exact ⟨p, table, hparse, ⟨hconforms, hholds⟩, (valid_iff_keepsRules hholds).mpr hrules⟩
  · rintro p ⟨table, hparse, ⟨-, hholds⟩, -⟩
    exact ⟨table, hparse, hholds⟩

theorem parse_accepts_application : parse packageText = .ok application ∧
    ∃ table, Toml.parse packageText = some table ∧ HoldsProfile (table.lookup ·) application :=
  ⟨parse_packageText, (parse_accepts packageText).2 application parse_packageText⟩

end ReleaseArtifacts.Profile
