import ReleaseArtifacts.Proofs.Alike
import ReleaseArtifacts.Proofs.Profile.Acceptance

namespace ReleaseArtifacts.Profile

/-!
# Which fault of a document is reported

A document can have many faults at once: keys that no field has, values of the wrong kind, and
fields that are missing, in the root table and in the records inside it.  Here all of them are
listed, in the order in which a walk through the document meets them.  The list is a specification
only: reading stops at the first fault, and that is the head of the list.

* `Walk` — the faults of a value in order; `textWalk`, `flagWalk`, `listWalk` and `recordWalk` are
  the walks through the kinds of values that a profile is made of.
* `profileFaults` — the faults of a document; there is none exactly if the document conforms.
* `Reports d walk` — the decoder `d` fails with the first fault on the walk, and does not fail if
  there is none.  `RecordWalk.reports` shows this for records, from a few facts about each of them.
* `parse_reports_first` — what is reported of a document that does not conform.
-/

open Toml (Value Table)

/-! ### The walk -/

/-- The faults of a value, in the order in which they are met. -/
abbrev Walk := Value → List FieldFault

/-- Anything but a string is of the wrong kind. -/
def textWalk : Walk
  | .string _ => []
  | v => [.wrongKind v .text]

/-- Anything but a truth value is of the wrong kind. -/
def flagWalk : Walk
  | .boolean _ => []
  | v => [.wrongKind v .flag]

/-- The items of an array are visited one after the other. -/
def listWalk (item : Walk) : Walk
  | .array items => items.flatMap item
  | v => [.wrongKind v .sequence]

/-- A field of a record: its name, the walk through its value, and whether it may be left out. -/
structure Slot where
  name : String
  walk : Walk
  mayMiss : Bool

/-- The faults of an entry: its key is that of no field, or its value is walked through in place. -/
def entryFaults (slots : List Slot) (e : String × Value) : List FieldFault :=
  match slots.find? fun s => s.name = e.1 with
  | none => [.unknownKey e.1 (slots.map Slot.name)]
  | some s => s.walk e.2

/-- The fields that have to be there and are not, in the order in which they are declared. -/
def missingFaults (slots : List Slot) (absent : String → FieldFault) (entries : Table) :
    List FieldFault :=
  (slots.filter fun s => !s.mayMiss && s.name ∉ entries.map Prod.fst).map fun s => absent s.name

/-- The faults of a record: those of its entries as they stand, and after the last one the fields
    that are missing. -/
def entriesFaults (slots : List Slot) (absent : String → FieldFault) (entries : Table) :
    List FieldFault :=
  entries.flatMap (entryFaults slots) ++ missingFaults slots absent entries

/-- The walk through a record.  A date counts as a table with one key; an array gives its items to
    the fields in turn, and is too short if some field that has to be there gets none. -/
def recordWalk (name : String) (slots : List Slot) : Walk
  | .table entries => entriesFaults slots .missing entries
  | .moment text => entriesFaults slots .missing (momentTable text)
  | .array items =>
    entriesFaults slots (fun _ => .tooShort items.length name slots.length)
      ((slots.map Slot.name).zip items)
  | v => [.wrongKind v (.record name)]

/-! ### The walk through a profile -/

def headSlots : List Slot := [⟨"url", textWalk, false⟩, ⟨"branch", textWalk, false⟩]

def runtimeSlots : List Slot :=
  [⟨"home_dir", textWalk, false⟩, ⟨"db_env", textWalk, false⟩, ⟨"db_file", textWalk, false⟩]

def launcherSlots : List Slot :=
  [⟨"name", textWalk, false⟩, ⟨"binary", textWalk, false⟩, ⟨"summary", textWalk, false⟩,
    ⟨"pass_db", flagWalk, true⟩]

def testSlots : List Slot := [⟨"command", textWalk, false⟩, ⟨"expect", textWalk, false⟩]

def profileSlots : List Slot :=
  [⟨"class_name", textWalk, false⟩, ⟨"desc", textWalk, false⟩, ⟨"homepage", textWalk, false⟩,
    ⟨"license", textWalk, false⟩, ⟨"head", recordWalk "HeadSource" headSlots, false⟩,
    ⟨"build_dependencies", listWalk textWalk, true⟩, ⟨"binaries", listWalk textWalk, false⟩,
    ⟨"runtime", recordWalk "RuntimeLayout" runtimeSlots, false⟩,
    ⟨"launchers", listWalk (recordWalk "Launcher" launcherSlots), false⟩,
    ⟨"test", recordWalk "SmokeTest" testSlots, false⟩]

/-- The faults of a document. -/
def profileFaults (table : Table) : List FieldFault :=
  recordWalk "FormulaProfile" profileSlots (.table table)

/-! ### Decoders report the first fault -/

section

variable {α : Type} {d : Decoder α} {walk : Walk}

/-- The decoder fails with the first fault on the walk, and does not fail if there is none. -/
def Reports (d : Decoder α) (walk : Walk) : Prop := ∀ v, fault? (d v) = (walk v).head?

/-- A value without faults is decoded. -/
theorem Reports.fault?_eq_none (h : Reports d walk) {v : Value} (hv : walk v = []) :
    fault? (d v) = none := by
  rw [h v, hv]
  rfl

theorem reports_text : Reports text textWalk := by
  intro v
  cases v <;> rfl

theorem reports_flag : Reports flag flagWalk := by
  intro v
  cases v <;> rfl

theorem fault?_mapM (h : Reports d walk) (items : List Value) :
    fault? (items.mapM d) = (items.flatMap walk).head? := by
  induction items with
  | nil => rfl
  | cons v items ih =>
    -- The items after the first one are decoded whatever its value is.
    have hrest : ∀ a, fault? (items.mapM d >>= fun as => pure (a :: as)) =
        (items.flatMap walk).head? := by
      intro a
      rw [fault?_bind (fun as => fault?_pure (a :: as)), ih, Option.or_none]
    rw [List.mapM_cons, fault?_bind hrest, h v, List.flatMap_cons, List.head?_append]

theorem Reports.list (h : Reports d walk) : Reports (list d) (listWalk walk) := by
  intro v
  cases v with
  | array items => exact fault?_mapM h items
  | _ => rfl

theorem Reports.checking (h : Reports d walk) : Reports (checking d) walk := by
  intro v
  have hmap : fault? (Profile.checking d v) = fault? (d v) := by
    unfold Profile.checking
    cases d v <;> rfl
  rw [hmap, h v]

end

/-! ### Entries -/

section

variable {α β : Type} {form : Form} {slots : List Slot} {entries : Table}

/-- The checks of a form report what the walks of the fields meet. -/
def Form.Walks (form : Form) (slots : List Slot) : Prop :=
  List.Forall₂ (fun c s => c.1 = s.name ∧ Reports c.2 s.walk) form slots

theorem Form.Walks.names_eq (h : form.Walks slots) : form.names = slots.map Slot.name :=
  Form.names_eq_map h

/-- A key finds the check and the walk of the same field. -/
theorem Form.Walks.lookup (h : form.Walks slots) (key : String) :
    Option.Rel (fun check s => Reports check s.walk) (form.lookup key)
      (slots.find? fun s => s.name = key) := by
  induction h with
  | nil => exact .none
  | @cons c s form slots hfirst _ ih =>
    obtain ⟨name, check⟩ := c
    obtain ⟨rfl, hcheck⟩ : name = s.name ∧ Reports check s.walk := hfirst
    by_cases hkey : s.name = key
    · subst hkey
      rw [List.lookup_cons_self, List.find?_cons_of_pos (by simp)]
      exact .some hcheck
    · rw [List.lookup_cons, beq_false_of_ne (Ne.symm hkey), List.find?_cons_of_neg (by simp [hkey])]
      exact ih

/-- **Entries are visited in order,** and the first fault of any of them is reported. -/
theorem visit_reports (h : form.Walks slots) (entries : Table) :
    fault? (visit form entries) = (entries.flatMap (entryFaults slots)).head? := by
  induction entries with
  | nil => rfl
  | cons e entries ih =>
    obtain ⟨key, v⟩ := e
    rw [visit, List.flatMap_cons, List.head?_append]
    rcases rel_cases (h.lookup key) with ⟨hcheck, hslot⟩ | ⟨check, s, hcheck, hslot, hreports⟩
    · have hfault : entryFaults slots (key, v) = [.unknownKey key form.names] := by
        rw [entryFaults, hslot, h.names_eq]
      rw [hcheck, hfault]
      rfl
    · have hfault : entryFaults slots (key, v) = s.walk v := by rw [entryFaults, hslot]
      rw [hcheck, hfault, ← hreports v, ← ih]
      exact fault?_bind fun _ => rfl

/-! ### Missing fields -/

/-- The values of the fields, as far as they are there, have no fault. -/
def Sound (slots : List Slot) (entries : Table) : Prop :=
  ∀ s ∈ slots, ∀ v, entries.lookup s.name = some v → s.walk v = []

theorem Sound.head {s : Slot} {v : Value} (h : Sound (s :: slots) entries)
    (hv : entries.lookup s.name = some v) : s.walk v = [] := h s List.mem_cons_self v hv

theorem Sound.tail {s : Slot} (h : Sound (s :: slots) entries) : Sound slots entries :=
  fun t ht => h t (List.mem_cons_of_mem s ht)

theorem sound_of_entryFaults (hnodup : (slots.map Slot.name).Nodup)
    (h : ∀ e ∈ entries, entryFaults slots e = []) : Sound slots entries := by
  intro s hs v hv
  have hentry := h _ (mem_of_lookup hv)
  -- The field that the key finds is this one, since no two have the same name.
  obtain ⟨s', hfind⟩ : ∃ s', slots.find? (fun t => t.name = s.name) = some s' := by
    rw [← Option.isSome_iff_exists, List.find?_isSome]
    exact ⟨s, hs, by simp⟩
  have hname : s'.name = s.name := by simpa using List.find?_some hfind
  obtain rfl : s' = s :=
    List.inj_on_of_nodup_map hnodup (List.mem_of_find?_eq_some hfind) hs hname
  rwa [entryFaults, hfind] at hentry

variable {e : Fields} {name : String} {walk : Walk} {d : Decoder α} {f : α → Except FieldFault β}

theorem missingFaults_cons (s : Slot) (slots : List Slot) (absent : String → FieldFault)
    (entries : Table) :
    missingFaults (s :: slots) absent entries =
      (if !s.mayMiss && s.name ∉ entries.map Prod.fst then [absent s.name] else []) ++
        missingFaults slots absent entries := by
  unfold missingFaults
  rw [List.filter_cons]
  split <;> rfl

/-- **A field that has to be there** is reported if it is missing, and hands on otherwise. -/
theorem required_reports (hd : Reports d walk)
    (hsound : Sound (⟨name, walk, false⟩ :: slots) e.entries)
    (hf : Sound slots e.entries → ∀ a,
      fault? (f a) = (missingFaults slots e.absent e.entries).head?) :
    fault? (e.required name d >>= f) =
      (missingFaults (⟨name, walk, false⟩ :: slots) e.absent e.entries).head? := by
  have hrest := hf hsound.tail
  rw [fault?_bind hrest, missingFaults_cons, List.head?_append, Fields.required]
  congr 1
  cases hv : e.entries.lookup name with
  | none =>
    have hmissing : name ∉ e.entries.map Prod.fst := by
      intro hmem
      obtain ⟨⟨_, v⟩, hentry, rfl⟩ := List.mem_map.mp hmem
      obtain ⟨w, hw⟩ := exists_lookup_of_mem hentry
      cases hv.symm.trans hw
    simp [hmissing]
  | some v =>
    have hthere : name ∈ e.entries.map Prod.fst := List.mem_map_of_mem (mem_of_lookup hv)
    have hnone : fault? (d v) = none := hd.fault?_eq_none (hsound.head hv)
    simp [hthere, hnone]

/-- A field that may be left out is never reported. -/
theorem optional_reports {default : α} (hd : Reports d walk)
    (hsound : Sound (⟨name, walk, true⟩ :: slots) e.entries)
    (hf : Sound slots e.entries → ∀ a,
      fault? (f a) = (missingFaults slots e.absent e.entries).head?) :
    fault? (e.optional name d default >>= f) =
      (missingFaults (⟨name, walk, true⟩ :: slots) e.absent e.entries).head? := by
  have hrest := hf hsound.tail
  have hnone : fault? (e.optional name d default) = none := by
    unfold Fields.optional
    cases hv : e.entries.lookup name with
    | none => rfl
    | some v => exact hd.fault?_eq_none (hsound.head hv)
  rw [fault?_bind hrest, hnone, Option.none_or]
  rfl

/-! ### Records -/

variable {build : Fields → Except FieldFault α}

/-- A record on the walk: its form reports what the walks of its fields meet, and once its entries
    have no fault, what is built from them reports the first field that is missing. -/
structure RecordWalk (form : Form) (slots : List Slot) (build : Fields → Except FieldFault α) :
    Prop where
  walks : form.Walks slots
  nodup : (slots.map Slot.name).Nodup
  build_reports : ∀ e : Fields, Sound slots e.entries →
    fault? (build e) = (missingFaults slots e.absent e.entries).head?

theorem RecordWalk.entries_reports (h : RecordWalk form slots build) (entries : Table)
    (absent : String → FieldFault) :
    fault? (do visit form entries; build ⟨entries, absent⟩) =
      (entriesFaults slots absent entries).head? := by
  rw [entriesFaults, List.head?_append, ← visit_reports h.walks]
  cases hvisit : visit form entries with
  | error fault => rfl
  | ok =>
    have hentries : (entries.flatMap (entryFaults slots)).head? = none := by
      rw [← visit_reports h.walks, hvisit]
      rfl
    rw [List.head?_eq_none_iff, List.flatMap_eq_nil_iff] at hentries
    exact h.build_reports ⟨entries, absent⟩ (sound_of_entryFaults h.nodup hentries)

/-- **Records report their first fault,** in both notations. -/
theorem RecordWalk.reports (h : RecordWalk form slots build) (name : String) :
    Reports (record name form build) (recordWalk name slots) := by
  intro v
  cases v with
  | table entries => exact h.entries_reports entries .missing
  | moment text => exact h.entries_reports (momentTable text) .missing
  | array items =>
    have hlength : form.length = slots.length := h.walks.length_eq
    have harray := h.entries_reports (form.names.zip items)
      fun _ => .tooShort items.length name form.length
    rw [h.walks.names_eq, hlength] at harray
    rw [record, h.walks.names_eq, hlength]
    exact harray
  | _ => rfl

end

/-! ### The records of a profile -/

theorem reports_head : Reports headSource (recordWalk "HeadSource" headSlots) := by
  refine RecordWalk.reports ⟨?walks, by decide, fun e h => ?build⟩ "HeadSource"
  case walks =>
    exact .cons ⟨rfl, reports_text.checking⟩ <| .cons ⟨rfl, reports_text.checking⟩ .nil
  case build =>
    exact required_reports reports_text h fun h _ =>
      required_reports reports_text h fun _ _ => rfl

theorem reports_runtime : Reports runtimeLayout (recordWalk "RuntimeLayout" runtimeSlots) := by
  refine RecordWalk.reports ⟨?walks, by decide, fun e h => ?build⟩ "RuntimeLayout"
  case walks =>
    exact .cons ⟨rfl, reports_text.checking⟩ <| .cons ⟨rfl, reports_text.checking⟩ <|
      .cons ⟨rfl, reports_text.checking⟩ .nil
  case build =>
    exact required_reports reports_text h fun h _ =>
      required_reports reports_text h fun h _ =>
      required_reports reports_text h fun _ _ => rfl

theorem reports_launcher : Reports launcher (recordWalk "Launcher" launcherSlots) := by
  refine RecordWalk.reports ⟨?walks, by decide, fun e h => ?build⟩ "Launcher"
  case walks =>
    exact .cons ⟨rfl, reports_text.checking⟩ <| .cons ⟨rfl, reports_text.checking⟩ <|
      .cons ⟨rfl, reports_text.checking⟩ <| .cons ⟨rfl, reports_flag.checking⟩ .nil
  case build =>
    exact required_reports reports_text h fun h _ =>
      required_reports reports_text h fun h _ =>
      required_reports reports_text h fun h _ =>
      optional_reports reports_flag h fun _ _ => rfl

theorem reports_test : Reports smokeTest (recordWalk "SmokeTest" testSlots) := by
  refine RecordWalk.reports ⟨?walks, by decide, fun e h => ?build⟩ "SmokeTest"
  case walks =>
    exact .cons ⟨rfl, reports_text.checking⟩ <| .cons ⟨rfl, reports_text.checking⟩ .nil
  case build =>
    exact required_reports reports_text h fun h _ =>
      required_reports reports_text h fun _ _ => rfl

theorem reports_profile : Reports profile (recordWalk "FormulaProfile" profileSlots) := by
  refine RecordWalk.reports ⟨?walks, by decide, fun e h => ?build⟩ "FormulaProfile"
  case walks =>
    exact .cons ⟨rfl, reports_text.checking⟩ <| .cons ⟨rfl, reports_text.checking⟩ <|
      .cons ⟨rfl, reports_text.checking⟩ <| .cons ⟨rfl, reports_text.checking⟩ <|
      .cons ⟨rfl, reports_head.checking⟩ <| .cons ⟨rfl, reports_text.list.checking⟩ <|
      .cons ⟨rfl, reports_text.list.checking⟩ <| .cons ⟨rfl, reports_runtime.checking⟩ <|
      .cons ⟨rfl, reports_launcher.list.checking⟩ <| .cons ⟨rfl, reports_test.checking⟩ .nil
  case build =>
    exact required_reports reports_text h fun h _ =>
      required_reports reports_text h fun h _ =>
      required_reports reports_text h fun h _ =>
      required_reports reports_text h fun h _ =>
      required_reports reports_head h fun h _ =>
      optional_reports reports_text.list h fun h _ =>
      required_reports reports_text.list h fun h _ =>
      required_reports reports_runtime h fun h _ =>
      required_reports reports_launcher.list h fun h _ =>
      required_reports reports_test h fun _ _ => rfl

/-! ### Documents -/

variable {table : Table}

theorem fault?_ofTable (table : Table) : fault? (ofTable table) = (profileFaults table).head? :=
  reports_profile (.table table)

/-- **A document has no fault exactly if it conforms.** -/
theorem profileFaults_eq_nil_iff : profileFaults table = [] ↔ Conforms table := by
  rw [← List.head?_eq_none_iff, ← fault?_ofTable, fault?_eq_none_iff]
  constructor
  · rintro ⟨p, hp⟩
    exact (ofTable_eq_ok_iff.mp hp).1
  · intro hconforms
    obtain ⟨p, hholds⟩ := exists_holdsProfile hconforms
    exact ⟨p, ofTable_eq_ok_iff.mpr ⟨hconforms, hholds⟩⟩

/-- **The first fault is reported.**  Of a document that does not conform, reading reports the first
    fault that a walk through it meets, and no rule that the profile might break. -/
theorem parse_reports_first {text : String} (hparse : Toml.parse text = some table)
    (hmisfit : ¬ Conforms table) :
    ∃ first others, profileFaults table = first :: others ∧
      parse text = .error (.field first) ∧
      (parse text).mapError ReadFault.toFault = .error (.invalidProfile first.message) ∧
      ∀ rule, parse text ≠ .error (.rule rule) := by
  obtain ⟨first, others, hfaults⟩ :=
    List.exists_cons_of_ne_nil (mt profileFaults_eq_nil_iff.mp hmisfit)
  have hfields : ofTable table = .error first := by
    rw [← fault?_eq_some_iff, fault?_ofTable, hfaults]
    rfl
  have hreported : parse text = .error (.field first) := by
    rw [parse, hparse]
    simp only [hfields]
  refine ⟨first, others, hfaults, hreported, ?_, fun rule hrule => ?_⟩
  · rw [hreported]
    rfl
  · cases hreported.symm.trans hrule

/-- A document with many faults: records that lack fields, in a table and in an array, an unknown
    key between them, and values of the wrong kind. -/
def misfitText : String :=
  "head = \x7b url = \"u\" \x7d\nextra = 1\nlicense = 3\nlaunchers = [\x7b name = 1 \x7d, 2]\n"

/-- What it says. -/
def misfitTable : Table :=
  [("head", .table [("url", .string "u")]), ("extra", .integer 1), ("license", .integer 3),
    ("launchers", .array [.table [("name", .integer 1)], .integer 2])]

set_option maxRecDepth 100000 in
theorem parse_misfitText : Toml.parse misfitText = some misfitTable := by
  conv => lhs; cbv
  rfl

theorem not_conforms_misfitTable : ¬ Conforms misfitTable := by
  intro h
  obtain ⟨f, hf, hname, -⟩ := h.known ("extra", .integer 1) (by simp [misfitTable])
  revert f
  decide

/-- The field that the first record lacks comes before all else, although the root table lacks
    fields that are declared earlier. -/
theorem parse_reports_first_misfit :
    Toml.parse misfitText = some misfitTable ∧ ¬ Conforms misfitTable ∧
    (profileFaults misfitTable).length = 13 ∧
    parse misfitText = .error (.field (.missing "branch")) ∧
    (parse misfitText).mapError ReadFault.toFault =
      .error (.invalidProfile "missing field `branch`") := by
  obtain ⟨first, others, hfaults, hreported, hmessage, -⟩ :=
    parse_reports_first parse_misfitText not_conforms_misfitTable
  obtain rfl : first = .missing "branch" := (List.cons.inj (hfaults.symm.trans rfl)).1
  exact ⟨parse_misfitText, not_conforms_misfitTable, rfl, hreported, hmessage⟩

/-- A text with an unknown key between the header of a table inside the table `head` and that of
    `head` itself. -/
def reopenedText : String := "[head.zzz]\n[bogus]\n[head]\n"

/-- What it says: the table `head` counts from its own header on. -/
def reopenedTable : Table := [("bogus", .table []), ("head", .table [("zzz", .table [])])]

set_option maxRecDepth 100000 in
theorem parse_reopenedText : Toml.parse reopenedText = some reopenedTable := by
  conv => lhs; cbv
  rfl

example : parse reopenedText =
    .error (.field (.unknownKey "bogus" (profileSlots.map Slot.name))) := by
  rw [parse, parse_reopenedText]
  rfl

end ReleaseArtifacts.Profile
