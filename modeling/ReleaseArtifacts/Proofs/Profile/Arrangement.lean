import ReleaseArtifacts.Proofs.Profile.Acceptance
import ReleaseArtifacts.Proofs.Toml.Assembling

namespace ReleaseArtifacts.Profile

/-!
# Documents of a profile

Everything that a profile says, written as a document in any order.

* `rootEntries`, `tableSections`, `launcherSections` — the entries of a profile.
* `Arranges` — a layout has these entries: the keys in any order, and the sections in any order that
  keeps the launchers in theirs.
* `Arranges.value?_root`, `Arranges.value?_table`, `Arranges.value?_launchers` — what the keys of the
  root table then stand for; `Arranges.fits_and_holds` — it is what the profile says.
-/

open Toml (Value Table Section Layout)

/-! ### Entries -/

/-- An array of strings. -/
def textArray (ss : List String) : Value := .array (ss.map .string)

def headEntries (h : HeadSource) : Table := [("url", .string h.url), ("branch", .string h.branch)]

def runtimeEntries (r : RuntimeLayout) : Table :=
  [("home_dir", .string r.homeDir), ("db_env", .string r.dbEnv), ("db_file", .string r.dbFile)]

def launcherEntries (l : Launcher) : Table :=
  [("name", .string l.name), ("binary", .string l.binary), ("summary", .string l.summary),
    ("pass_db", .boolean l.passDb)]

def testEntries (t : SmokeTest) : Table :=
  [("command", .string t.command), ("expect", .string t.expect)]

variable {p : Profile} {layout : Layout}

/-- The entries before the first section.  If there are no launchers, no section stands for them,
    and their list stands here. -/
def rootEntries (p : Profile) : Table :=
  [("class_name", .string p.className), ("desc", .string p.desc), ("homepage", .string p.homepage),
    ("license", .string p.license), ("build_dependencies", textArray p.buildDependencies),
    ("binaries", textArray p.binaries)] ++
  if p.launchers = [] then [("launchers", .array [])] else []

/-- The sections that are tables of their own. -/
def tableSections (p : Profile) : List Section :=
  [⟨"head", false, headEntries p.head⟩, ⟨"runtime", false, runtimeEntries p.runtime⟩,
    ⟨"test", false, testEntries p.test⟩]

/-- The sections of the launchers, in their order. -/
def launcherSections (p : Profile) : List Section :=
  p.launchers.map fun l => ⟨"launchers", true, launcherEntries l⟩

/-- The same section with its entries in another order. -/
structure Reorders (s t : Section) : Prop where
  name : s.name = t.name
  repeated : s.repeated = t.repeated
  entries : s.entries.Perm t.entries

/-- A layout has the entries of a profile: those of the root and of each section in any order, and
    the sections in any order that keeps the launchers in theirs. -/
structure Arranges (layout : Layout) (p : Profile) : Prop where
  root : layout.root.Perm p.rootEntries
  sections : ∃ order : List Section, order.Perm (p.tableSections ++ p.launcherSections) ∧
    order.filter (·.repeated) = p.launcherSections ∧ List.Forall₂ Reorders layout.sections order

/-! ### Records -/

/-- A table has the fields of a record if its keys are their names, each with a value that fits. -/
theorem FitsTable.of_lookup {fields : List Field} {entries : Table}
    (hnodup : (entries.map Prod.fst).Nodup) (hkeys : ∀ e ∈ entries, e.1 ∈ fields.map Field.name)
    (hall : ∀ f ∈ fields, ∃ v, entries.lookup f.name = some v ∧ f.Fits v) :
    FitsTable fields entries where
  known := by
    intro e he
    obtain ⟨f, hf, hname⟩ := List.mem_map.mp (hkeys e he)
    obtain ⟨v, hv, hfits⟩ := hall f hf
    have hlookup : entries.lookup f.name = some e.2 := by
      rw [lookup_eq_some_iff_mem hnodup, hname]
      exact he
    obtain rfl : v = e.2 := by simpa [hlookup] using hv.symm
    exact ⟨f, hf, hname, hfits⟩
  complete := by
    intro f hf _
    obtain ⟨v, hv, -⟩ := hall f hf
    exact ⟨v, mem_of_lookup hv⟩

theorem FitsTable.of_perm {fields : List Field} {entries entries' : Table}
    (h : FitsTable fields entries') (hperm : entries.Perm entries') : FitsTable fields entries where
  known e he := h.known e (hperm.mem_iff.mp he)
  complete f hf hmiss := by
    obtain ⟨v, hv⟩ := h.complete f hf hmiss
    exact ⟨v, hperm.mem_iff.mpr hv⟩

/-- The entries of a record may stand in any order. -/
theorem isRecord_of_perm {fields : List Field} {entries entries' : Table}
    (h : FitsTable fields entries') (hnodup : (entries'.map Prod.fst).Nodup)
    (hperm : entries.Perm entries') :
    IsRecord fields (.table entries) ∧
      ∀ key, given fields (.table entries) key = entries'.lookup key :=
  ⟨.table (h.of_perm hperm), fun _ => (lookup_perm hperm.symm hnodup).symm⟩

section Records

variable {entries : Table}

theorem record_head {h : HeadSource} (hperm : entries.Perm (headEntries h)) :
    IsRecord headFields (.table entries) ∧ HoldsHead (given headFields (.table entries)) h := by
  have hfits : FitsTable headFields (headEntries h) := by
    constructor <;> simp [headEntries, headFields, IsText]
  obtain ⟨hrecord, hgiven⟩ := isRecord_of_perm hfits (by simp [headEntries]) hperm
  refine ⟨hrecord, ?_, ?_⟩ <;> rw [hgiven] <;> rfl

theorem record_runtime {r : RuntimeLayout} (hperm : entries.Perm (runtimeEntries r)) :
    IsRecord runtimeFields (.table entries) ∧
      HoldsRuntime (given runtimeFields (.table entries)) r := by
  have hfits : FitsTable runtimeFields (runtimeEntries r) := by
    constructor <;> simp [runtimeEntries, runtimeFields, IsText]
  obtain ⟨hrecord, hgiven⟩ := isRecord_of_perm hfits (by simp [runtimeEntries]) hperm
  refine ⟨hrecord, ?_, ?_, ?_⟩ <;> rw [hgiven] <;> rfl

theorem record_launcher {l : Launcher} (hperm : entries.Perm (launcherEntries l)) :
    IsRecord launcherFields (.table entries) ∧
      HoldsLauncher (given launcherFields (.table entries)) l := by
  have hfits : FitsTable launcherFields (launcherEntries l) := by
    constructor <;> simp [launcherEntries, launcherFields, IsText, IsFlag]
  obtain ⟨hrecord, hgiven⟩ := isRecord_of_perm hfits (by simp [launcherEntries]) hperm
  refine ⟨hrecord, ?_, ?_, ?_, ?_⟩ <;> rw [hgiven] <;> rfl

theorem record_test {t : SmokeTest} (hperm : entries.Perm (testEntries t)) :
    IsRecord testFields (.table entries) ∧ HoldsTest (given testFields (.table entries)) t := by
  have hfits : FitsTable testFields (testEntries t) := by
    constructor <;> simp [testEntries, testFields, IsText]
  obtain ⟨hrecord, hgiven⟩ := isRecord_of_perm hfits (by simp [testEntries]) hperm
  refine ⟨hrecord, ?_, ?_⟩ <;> rw [hgiven] <;> rfl

end Records

/-! ### The sections of a name -/

theorem forall₂_filter_name {written order : List Section}
    (h : List.Forall₂ Reorders written order) (name : String) :
    List.Forall₂ Reorders (written.filter (·.name = name)) (order.filter (·.name = name)) := by
  refine List.rel_filter (fun s t hst => ?_) h
  simp [hst.name]

theorem mem_sections {s : Section} : s ∈ p.tableSections ++ p.launcherSections ↔
    s = ⟨"head", false, headEntries p.head⟩ ∨ s = ⟨"runtime", false, runtimeEntries p.runtime⟩ ∨
      s = ⟨"test", false, testEntries p.test⟩ ∨
      ∃ l ∈ p.launchers, ⟨"launchers", true, launcherEntries l⟩ = s := by
  simp [tableSections, launcherSections]

/-- Only the launchers are repeated, under their own name. -/
theorem repeated_iff {s : Section} (hs : s ∈ p.tableSections ++ p.launcherSections) :
    s.repeated ↔ s.name = "launchers" := by
  rcases mem_sections.mp hs with rfl | rfl | rfl | ⟨l, -, rfl⟩ <;> simp

/-- Sections stay compatible if their entries are reordered. -/
theorem compatible_of_reorders {written order : List Section}
    (h : List.Forall₂ Reorders written order) (horder : order.Pairwise Section.Compatible) :
    written.Pairwise Section.Compatible := by
  induction h with
  | nil => exact .nil
  | @cons s t written order hst hrest ih =>
    -- The name and the kind of a section are all that the relation looks at.
    obtain ⟨ht, horder⟩ := List.pairwise_cons.mp horder
    refine List.pairwise_cons.mpr ⟨?_, ih horder⟩
    refine (forall_mem_iff_of_forall₂ hrest fun s' t' hst' => ?_).mpr ht
    rw [Section.Compatible, Section.Compatible, hst.name, hst.repeated, hst'.name, hst'.repeated]

theorem compatible_sections (p : Profile) :
    (p.tableSections ++ p.launcherSections).Pairwise Section.Compatible := by
  have hlaunchers : p.launcherSections.Pairwise Section.Compatible := by
    rw [launcherSections, List.pairwise_map]
    exact List.pairwise_of_forall fun _ _ _ => ⟨rfl, rfl⟩
  refine List.pairwise_append.mpr ⟨?_, hlaunchers, ?_⟩ <;>
    simp [tableSections, launcherSections, Section.Compatible]

namespace Arranges

theorem filter_table (h : Arranges layout p) {t : Section} (ht : t ∈ p.tableSections) :
    ∃ s, layout.sections.filter (·.name = t.name) = [s] ∧ Reorders s t := by
  obtain ⟨order, hperm, -, hall⟩ := h.sections
  have hone : (p.tableSections ++ p.launcherSections).filter (·.name = t.name) = [t] := by
    simp only [tableSections, List.mem_cons, List.not_mem_nil, or_false] at ht
    rcases ht with rfl | rfl | rfl <;> simp [tableSections, launcherSections]
  -- With one section of this name, its place in the order does not matter.
  have horder : order.filter (·.name = t.name) = [t] :=
    List.perm_singleton.mp (hone ▸ hperm.filter _)
  have hfilter := forall₂_filter_name hall t.name
  rw [horder, List.forall₂_cons_right_iff] at hfilter
  obtain ⟨s, rest, hs, hrest, hwritten⟩ := hfilter
  rw [List.forall₂_nil_right_iff.mp hrest] at hwritten
  exact ⟨s, hwritten, hs⟩

theorem filter_launchers (h : Arranges layout p) :
    List.Forall₂ Reorders (layout.sections.filter (·.name = "launchers")) p.launcherSections := by
  obtain ⟨order, hperm, hkeep, hall⟩ := h.sections
  -- The sections of this name are the repeated ones, and these keep their order.
  have hname : order.filter (·.name = "launchers") = order.filter (·.repeated) := by
    refine List.filter_congr fun s hs => ?_
    rw [Bool.eq_iff_iff, decide_eq_true_iff]
    exact (repeated_iff (hperm.mem_iff.mp hs)).symm
  rw [← hkeep, ← hname]
  exact forall₂_filter_name hall "launchers"

/-- What holds of the entries of the root holds of those that are written. -/
theorem forall_root (h : Arranges layout p) {P : String × Value → Prop}
    (hall : ∀ e ∈ p.rootEntries, P e) : ∀ e ∈ layout.root, P e :=
  fun e he => hall e (h.root.mem_iff.mp he)

/-- What holds of the sections of the profile in any order of their entries holds of those that are
    written. -/
theorem forall_sections (h : Arranges layout p) {P : Section → Prop}
    (hP : ∀ s t, Reorders s t → (P s ↔ P t))
    (hall : ∀ t ∈ p.tableSections ++ p.launcherSections, P t) : ∀ s ∈ layout.sections, P s := by
  obtain ⟨order, hperm, -, hreorders⟩ := h.sections
  exact (forall_mem_iff_of_forall₂ hreorders hP).mpr fun t ht => hall t (hperm.mem_iff.mp ht)

end Arranges

/-! ### The root table -/

theorem nodup_rootEntries (p : Profile) : (p.rootEntries.map Prod.fst).Nodup := by
  rw [rootEntries]
  split <;> simp

namespace Arranges

theorem root_lookup (h : Arranges layout p) (key : String) :
    layout.root.lookup key = p.rootEntries.lookup key :=
  (lookup_perm h.root.symm p.nodup_rootEntries).symm

/-- An entry of the root table. -/
theorem value?_root (h : Arranges layout p) {key : String} {v : Value}
    (hv : (key, v) ∈ p.rootEntries) : layout.value? key = some v := by
  have hlookup := (lookup_eq_some_iff_mem p.nodup_rootEntries).mpr hv
  rw [Layout.value?, h.root_lookup, hlookup, Option.some_or]

/-- A table of its own. -/
theorem value?_table (h : Arranges layout p) {t : Section} (ht : t ∈ p.tableSections) :
    ∃ entries, layout.value? t.name = some (.table entries) ∧ entries.Perm t.entries := by
  obtain ⟨s, hfilter, hs⟩ := h.filter_table ht
  have hroot : p.rootEntries.lookup t.name = none ∧ t.repeated = false := by
    simp only [tableSections, List.mem_cons, List.not_mem_nil, or_false] at ht
    refine ⟨lookup_eq_none_of_notMem ?_, ?_⟩
    · rw [rootEntries]
      rcases ht with rfl | rfl | rfl <;> split <;> simp
    · rcases ht with rfl | rfl | rfl <;> rfl
  refine ⟨s.entries, ?_, hs.entries⟩
  rw [Layout.value?, h.root_lookup, hroot.1, Option.none_or, hfilter, Toml.sectionValue?,
    hs.repeated, hroot.2]
  rfl

/-- The launchers, in their order. -/
theorem value?_launchers (h : Arranges layout p) :
    ∃ items, layout.value? "launchers" = some (.array items) ∧ List.Forall₂
      (fun v l => ∃ entries, v = .table entries ∧ entries.Perm (launcherEntries l))
      items p.launchers := by
  have hsections := h.filter_launchers
  rw [launcherSections, List.forall₂_map_right_iff] at hsections
  by_cases hlaunchers : p.launchers = []
  · -- No section stands for the launchers: their list is an entry of the root.
    have hentry : ("launchers", .array []) ∈ p.rootEntries := by
      rw [rootEntries, if_pos hlaunchers]
      simp
    exact ⟨[], h.value?_root hentry, hlaunchers ▸ .nil⟩
  · have hroot : p.rootEntries.lookup "launchers" = none := by
      rw [rootEntries, if_neg hlaunchers]
      rfl
    rw [Layout.value?, h.root_lookup, hroot, Option.none_or]
    generalize layout.sections.filter (·.name = "launchers") = written at hsections
    refine ⟨written.map fun s => .table s.entries, ?_, ?_⟩
    · obtain ⟨l, launchers, hcons⟩ := List.exists_cons_of_ne_nil hlaunchers
      rw [hcons, List.forall₂_cons_right_iff] at hsections
      obtain ⟨s, rest, hs, -, rfl⟩ := hsections
      rw [Toml.sectionValue?, hs.repeated, if_pos rfl]
    · rw [List.forall₂_map_left_iff]
      exact hsections.imp fun s l hs => ⟨s.entries, rfl, hs.entries⟩

/-- Nothing but the fields of a profile is defined. -/
theorem name_mem (h : Arranges layout p) {key : String} {v : Value}
    (hv : layout.value? key = some v) : key ∈ profileFields.map Field.name := by
  rw [Layout.value?, h.root_lookup, Option.or_eq_some_iff] at hv
  rcases hv with hroot | ⟨-, hsection⟩
  · have hkey : key ∈ p.rootEntries.map Prod.fst :=
      List.mem_map.mpr ⟨_, mem_of_lookup hroot, rfl⟩
    have hall : ∀ k ∈ p.rootEntries.map Prod.fst, k ∈ profileFields.map Field.name := by
      rw [rootEntries]
      split <;> simp [profileFields]
    exact hall key hkey
  · have hall : ∀ s ∈ layout.sections, s.name ∈ profileFields.map Field.name := by
      refine h.forall_sections (fun s t hst => by rw [hst.name]) ?_
      simp [tableSections, launcherSections, profileFields]
    cases hfilter : layout.sections.filter (·.name = key) with
    | nil => simp [hfilter, Toml.sectionValue?] at hsection
    | cons s rest =>
      have hs : s ∈ layout.sections.filter (·.name = key) := by simp [hfilter]
      obtain ⟨hmem, hname⟩ := List.mem_filter.mp hs
      rw [← of_decide_eq_true hname]
      exact hall s hmem

/-- Every field of a profile is defined, as the profile says. -/
theorem fits_and_holds (h : Arranges layout p) :
    (∀ f ∈ profileFields, ∃ v, layout.value? f.name = some v ∧ f.Fits v) ∧
      HoldsProfile layout.value? p := by
  have hclass : layout.value? "class_name" = some (.string p.className) :=
    h.value?_root (by simp [rootEntries])
  have hdesc : layout.value? "desc" = some (.string p.desc) := h.value?_root (by simp [rootEntries])
  have hpage : layout.value? "homepage" = some (.string p.homepage) :=
    h.value?_root (by simp [rootEntries])
  have hlicense : layout.value? "license" = some (.string p.license) :=
    h.value?_root (by simp [rootEntries])
  have hdependencies : layout.value? "build_dependencies" = some (textArray p.buildDependencies) :=
    h.value?_root (by simp [rootEntries])
  have hbinaries : layout.value? "binaries" = some (textArray p.binaries) :=
    h.value?_root (by simp [rootEntries])
  have htexts : ∀ ss : List String, IsList IsText (textArray ss) :=
    fun ss => ⟨_, rfl, by simp [IsText]⟩
  have htable (name : String) (entries : Table) (ht : ⟨name, false, entries⟩ ∈ p.tableSections) :
      ∃ written, layout.value? name = some (.table written) ∧ written.Perm entries :=
    h.value?_table ht
  obtain ⟨_, hhead, hperm⟩ := htable "head" (headEntries p.head) (by simp [tableSections])
  obtain ⟨hheadFits, hheadHolds⟩ := record_head hperm
  obtain ⟨_, hruntime, hperm⟩ :=
    htable "runtime" (runtimeEntries p.runtime) (by simp [tableSections])
  obtain ⟨hruntimeFits, hruntimeHolds⟩ := record_runtime hperm
  obtain ⟨_, htest, hperm⟩ := htable "test" (testEntries p.test) (by simp [tableSections])
  obtain ⟨htestFits, htestHolds⟩ := record_test hperm
  obtain ⟨items, hlaunchers, hitems⟩ := h.value?_launchers
  have hrecords : List.Forall₂ (fun v l => IsRecord launcherFields v ∧
      HoldsLauncher (given launcherFields v) l) items p.launchers := by
    refine hitems.imp ?_
    rintro _ l ⟨entries, rfl, hperm⟩
    exact record_launcher hperm
  rw [List.forall₂_and_left] at hrecords
  obtain ⟨hlauncherFits, hlauncherHolds⟩ := hrecords
  constructor
  · simp only [profileFields, List.forall_mem_cons]
    exact ⟨⟨_, hclass, _, rfl⟩, ⟨_, hdesc, _, rfl⟩, ⟨_, hpage, _, rfl⟩, ⟨_, hlicense, _, rfl⟩,
      ⟨_, hhead, hheadFits⟩, ⟨_, hdependencies, htexts _⟩, ⟨_, hbinaries, htexts _⟩,
      ⟨_, hruntime, hruntimeFits⟩, ⟨_, hlaunchers, _, rfl, hlauncherFits⟩, ⟨_, htest, htestFits⟩,
      List.forall_mem_nil _⟩
  · refine ⟨hclass, hdesc, hpage, hlicense, ⟨_, hhead, hheadHolds⟩, ?_, hbinaries,
      ⟨_, hruntime, hruntimeHolds⟩, ⟨items, hlaunchers, hlauncherHolds⟩, ⟨_, htest, htestHolds⟩⟩
    rw [hdependencies]
    rfl

end Arranges

end ReleaseArtifacts.Profile
