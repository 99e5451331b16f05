import ReleaseArtifacts.Proofs.Failing
import ReleaseArtifacts.Proofs.Profile.Format
import ReleaseArtifacts.Proofs.Lookup

namespace ReleaseArtifacts.Profile

/-!
# What the decoders accept

* `Decodes d Fits Holds` — the decoder `d` accepts the values that fit, and gives what they hold.
* `RecordOf` — the few facts about a record from which `RecordOf.decodes` shows this for the decoder
  of the record, in both notations.
* `decodes_head`, `decodes_runtime`, `decodes_launcher`, `decodes_test` — the records inside a
  profile.
-/

open Toml (Value Table)

/-! ### Steps that can fail -/

theorem mapM_eq_ok_iff {ε α β : Type} {f : α → Except ε β} {xs : List α} {ys : List β} :
    xs.mapM f = .ok ys ↔ List.Forall₂ (fun x y => f x = .ok y) xs ys := by
  induction xs generalizing ys with
  | nil => cases ys <;> simp [pure, Except.pure]
  | cons x xs ih =>
    simp only [List.mapM_cons, bind_eq_ok_iff, ih]
    cases ys with
    | nil => simp [pure, Except.pure]
    | cons y ys =>
      rw [List.forall₂_cons]
      simp [pure, Except.pure]

/-! ### Decoders -/

section

variable {α β : Type} {d : Decoder α} {Fits : Value → Prop} {Holds : Value → α → Prop}

/-- The decoder accepts the values that fit, and gives what they hold. -/
structure Decodes (d : Decoder α) (Fits : Value → Prop) (Holds : Value → α → Prop) : Prop where
  eq_ok_iff : ∀ v a, d v = .ok a ↔ Fits v ∧ Holds v a
  exists_holds : ∀ v, Fits v → ∃ a, Holds v a

theorem Decodes.checking_iff (h : Decodes d Fits Holds) (v : Value) :
    checking d v = .ok () ↔ Fits v := by
  have hmap : checking d v = .ok () ↔ ∃ a, d v = .ok a := by
    unfold checking
    cases d v <;> simp [Except.map]
  rw [hmap]
  constructor
  · rintro ⟨a, ha⟩
    exact ((h.eq_ok_iff v a).mp ha).1
  · intro hv
    obtain ⟨a, ha⟩ := h.exists_holds v hv
    exact ⟨a, (h.eq_ok_iff v a).mpr ⟨hv, ha⟩⟩

theorem text_eq_ok_iff {v : Value} {s : String} : text v = .ok s ↔ v = .string s := by
  cases v <;> simp [text]

theorem flag_eq_ok_iff {v : Value} {b : Bool} : flag v = .ok b ↔ v = .boolean b := by
  cases v <;> simp [flag]

theorem decodes_text : Decodes text IsText (fun v s => v = .string s) where
  eq_ok_iff := by
    intro v s
    rw [text_eq_ok_iff]
    exact ⟨fun h => ⟨⟨s, h⟩, h⟩, fun h => h.2⟩
  exists_holds := fun _ h => h

theorem decodes_flag : Decodes flag IsFlag (fun v b => v = .boolean b) where
  eq_ok_iff := by
    intro v b
    rw [flag_eq_ok_iff]
    exact ⟨fun h => ⟨⟨b, h⟩, h⟩, fun h => h.2⟩
  exists_holds := fun _ h => h

theorem list_eq_ok_iff {v : Value} {as : List α} :
    list d v = .ok as ↔
      ∃ items, v = .array items ∧ List.Forall₂ (fun x a => d x = .ok a) items as := by
  cases v with
  | array items => simp [list, mapM_eq_ok_iff]
  | _ => simp [list]

/-- Items that each have a partner have them all together. -/
theorem exists_forall₂ {R : α → β → Prop} {xs : List α} (h : ∀ x ∈ xs, ∃ y, R x y) :
    ∃ ys, List.Forall₂ R xs ys := by
  induction xs with
  | nil => exact ⟨[], .nil⟩
  | cons x xs ih =>
    obtain ⟨y, hy⟩ := h x (by simp)
    obtain ⟨ys, hys⟩ := ih fun x' hx' => h x' (by simp [hx'])
    exact ⟨y :: ys, .cons hy hys⟩

theorem Decodes.list (h : Decodes d Fits Holds) :
    Decodes (list d) (IsList Fits) (fun v as => ∃ items, v = .array items ∧
      List.Forall₂ Holds items as) where
  eq_ok_iff := by
    intro v as
    simp only [list_eq_ok_iff, h.eq_ok_iff, List.forall₂_and_left]
    constructor
    · rintro ⟨items, rfl, hfits, hholds⟩
      exact ⟨⟨items, rfl, hfits⟩, items, rfl, hholds⟩
    · rintro ⟨⟨items, rfl, hfits⟩, items', hitems, hholds⟩
      obtain rfl : items = items' := by simpa using hitems
      exact ⟨items, rfl, hfits, hholds⟩
  exists_holds := by
    rintro _ ⟨items, rfl, hfits⟩
    obtain ⟨as, hholds⟩ := exists_forall₂ fun x hx => h.exists_holds x (hfits x hx)
    exact ⟨as, items, rfl, hholds⟩

/-- Several strings are written as the array of them. -/
theorem list_text_eq_ok_iff {v : Value} {ss : List String} :
    list text v = .ok ss ↔ v = .array (ss.map .string) := by
  have hitems : ∀ items : List Value,
      List.Forall₂ (fun v s => v = .string s) items ss ↔ items = ss.map .string := by
    intro items
    rw [← List.forall₂_eq_eq_eq, List.forall₂_map_right_iff]
  simp only [list_eq_ok_iff, text_eq_ok_iff, hitems]
  constructor
  · rintro ⟨_, rfl, rfl⟩
    rfl
  · rintro rfl
    exact ⟨_, rfl, rfl⟩

/-! ### Entries of a record -/

variable {fields : List Field} {form : Form} {entries : Table} {items : List Value}

/-- What the fields are given: values that fit, and no field is missing that has to be there. -/
structure Supplied (fields : List Field) (get : String → Option Value) : Prop where
  known : ∀ f ∈ fields, ∀ v, get f.name = some v → f.Fits v
  complete : ∀ f ∈ fields, f.mayMiss = false → ∃ v, get f.name = some v

theorem Supplied.exists_at {get : String → Option Value} (h : Supplied fields get) {i : Nat}
    {f : Field} (hf : fields[i]? = some f) (hmiss : f.mayMiss = false) :
    ∃ v, get f.name = some v ∧ f.Fits v := by
  have hmem := List.mem_of_getElem? hf
  obtain ⟨v, hv⟩ := h.complete f hmem hmiss
  exact ⟨v, hv, h.known f hmem v hv⟩

theorem Supplied.exists_text {get : String → Option Value} (h : Supplied fields get) (name : String)
    {i : Nat} (hf : fields[i]? = some ⟨name, IsText, false⟩) :
    ∃ s, get name = some (.string s) := by
  obtain ⟨v, hv, s, rfl⟩ := h.exists_at hf rfl
  exact ⟨s, hv⟩

theorem IsList.exists_texts {v : Value} (h : IsList IsText v) :
    ∃ ss : List String, v = .array (ss.map .string) := by
  obtain ⟨ss, hholds⟩ := decodes_text.list.exists_holds v h
  exact ⟨ss, list_text_eq_ok_iff.mp ((decodes_text.list.eq_ok_iff v ss).mpr ⟨h, hholds⟩)⟩

/-- The checks of a form are those of the fields. -/
structure Form.Checks (form : Form) (fields : List Field) : Prop where
  each : List.Forall₂ (fun c f => c.1 = f.name ∧ ∀ v, c.2 v = .ok () ↔ f.Fits v) form fields
  nodup : (fields.map Field.name).Nodup

/-- A form that has the names of other things, one by one, has them in the same order. -/
theorem Form.names_eq_map {β : Type} {name : β → String} {R : String × Check → β → Prop}
    {bs : List β} (h : List.Forall₂ (fun c b => c.1 = name b ∧ R c b) form bs) :
    form.names = bs.map name := by
  induction h with
  | nil => rfl
  | cons hfirst _ ih => rw [names, List.map_cons, List.map_cons, hfirst.1, ← ih, names]

theorem Form.Checks.names_eq (h : form.Checks fields) : form.names = fields.map Field.name :=
  Form.names_eq_map h.each

/-- The check of a key is the one of the field with this name. -/
theorem Form.Checks.lookup_iff (h : form.Checks fields) {key : String} {v : Value} :
    (∃ check, form.lookup key = some check ∧ check v = .ok ()) ↔
      ∃ f ∈ fields, f.name = key ∧ f.Fits v := by
  obtain ⟨heach, hnodup⟩ := h
  induction heach with
  | nil => simp
  | @cons c f form fields hfirst heach ih =>
    obtain ⟨hname, hnodup⟩ := List.nodup_cons.mp hnodup
    obtain ⟨name, check⟩ := c
    obtain ⟨rfl, hcheck⟩ : name = f.name ∧ ∀ v, check v = .ok () ↔ f.Fits v := hfirst
    by_cases hkey : key = f.name
    · -- No later field has the name of this one.
      subst hkey
      have hlater : ¬ ∃ f' ∈ fields, f'.name = f.name ∧ f'.Fits v := by
        rintro ⟨f', hf', heq, -⟩
        exact hname (List.mem_map.mpr ⟨f', hf', heq⟩)
      simp [hcheck, hlater]
    · rw [List.lookup_cons, beq_false_of_ne hkey]
      simp [ih hnodup, Ne.symm hkey]

theorem visit_cons_iff {key : String} {v : Value} :
    visit form ((key, v) :: entries) = .ok () ↔
      (∃ check, form.lookup key = some check ∧ check v = .ok ()) ∧ visit form entries = .ok () := by
  rw [visit]
  cases form.lookup key with
  | none => simp
  | some check =>
    rw [bind_eq_ok_iff]
    constructor
    · rintro ⟨⟨⟩, hv, hrest⟩
      exact ⟨⟨check, rfl, hv⟩, hrest⟩
    · rintro ⟨⟨check', hcheck, hv⟩, hrest⟩
      obtain rfl : check = check' := by simpa using hcheck
      exact ⟨(), hv, hrest⟩

/-- The entries of a record are visited without a fault exactly if each of them fits its field. -/
theorem visit_eq_ok_iff (h : form.Checks fields) :
    visit form entries = .ok () ↔ ∀ e ∈ entries, ∃ f ∈ fields, f.name = e.1 ∧ f.Fits e.2 := by
  induction entries with
  | nil => simp [visit]
  | cons e entries ih => rw [visit_cons_iff, ih, h.lookup_iff, List.forall_mem_cons]

theorem FitsTable.supplied (h : FitsTable fields entries) (hnodup : (fields.map Field.name).Nodup) :
    Supplied fields (entries.lookup ·) where
  known := by
    intro f hf v hv
    obtain ⟨f', hf', hname, hfits⟩ := h.known _ (mem_of_lookup hv)
    rwa [← List.inj_on_of_nodup_map hnodup hf' hf hname]
  complete := by
    intro f hf hmiss
    obtain ⟨v, hv⟩ := h.complete f hf hmiss
    exact exists_lookup_of_mem hv

/-! ### An array as a table -/

/-- An array gives its items the names of the fields. -/
theorem lookup_zip (fields : List Field) (items : List Value) (key : String) :
    ((fields.map Field.name).zip items).lookup key =
      (fields.findIdx? fun f => f.name = key).bind (items[·]?) := by
  induction fields generalizing items with
  | nil => rfl
  | cons f fields ih =>
    cases items with
    | nil => simp
    | cons v items =>
      rw [List.map_cons, List.zip_cons_cons, List.lookup_cons, List.findIdx?_cons]
      by_cases hkey : f.name = key
      · simp [hkey]
      · rw [beq_false_of_ne (Ne.symm hkey), decide_eq_false hkey]
        simp only [ih, Bool.false_eq_true, if_false, Option.bind_map]
        rfl

theorem given_array (fields : List Field) (items : List Value) :
    given fields (.array items) = (((fields.map Field.name).zip items).lookup ·) := by
  funext key
  rw [lookup_zip, given]

theorem fitsArray_iff (hnodup : (fields.map Field.name).Nodup) :
    FitsArray fields items ↔ FitsTable fields ((fields.map Field.name).zip items) := by
  -- An entry is the name of a field with the item in its place.
  have hmem : ∀ e : String × Value, e ∈ (fields.map Field.name).zip items ↔
      ∃ (i : Nat) (f : Field), fields[i]? = some f ∧ items[i]? = some e.2 ∧ f.name = e.1 := by
    intro e
    rw [List.mem_iff_getElem?]
    refine exists_congr fun i => ?_
    rw [List.getElem?_zip_eq_some, List.getElem?_map, Option.map_eq_some_iff]
    constructor
    · rintro ⟨⟨f, hf, hname⟩, hv⟩
      exact ⟨f, hf, hv, hname⟩
    · rintro ⟨f, hf, hv, hname⟩
      exact ⟨⟨f, hf, hname⟩, hv⟩
  constructor
  · intro h
    constructor
    · intro e he
      obtain ⟨i, f, hf, hv, hname⟩ := (hmem e).mp he
      exact ⟨f, List.mem_of_getElem? hf, hname, h.known i f e.2 hf hv⟩
    · intro f hf hmiss
      obtain ⟨i, hi⟩ := List.mem_iff_getElem?.mp hf
      have hlt := h.complete i f hi hmiss
      exact ⟨items[i], (hmem _).mpr ⟨i, f, hi, List.getElem?_eq_getElem hlt, rfl⟩⟩
  · intro h
    constructor
    · intro i f v hf hv
      obtain ⟨f', hf', hname, hfits⟩ := h.known (f.name, v) ((hmem _).mpr ⟨i, f, hf, hv, rfl⟩)
      rwa [← List.inj_on_of_nodup_map hnodup hf' (List.mem_of_getElem? hf) hname]
    · intro i f hf hmiss
      obtain ⟨v, hv⟩ := h.complete f (List.mem_of_getElem? hf) hmiss
      obtain ⟨j, f', hf', hitem, hname⟩ := (hmem _).mp hv
      -- A name stands in one place only.
      have hi : (fields.map Field.name)[i]? = some f.name := by rw [List.getElem?_map, hf]; rfl
      have hj : (fields.map Field.name)[j]? = some f.name := by
        rw [List.getElem?_map, hf', Option.map_some, hname]
      obtain ⟨hlt, -⟩ := List.getElem?_eq_some_iff.mp hi
      obtain rfl : i = j := (List.getElem?_inj hlt hnodup).mp (hi.trans hj.symm)
      exact (List.getElem?_eq_some_iff.mp hitem).1

/-! ### Records -/

variable {build : Fields → Except FieldFault α} {HoldsBy : (String → Option Value) → α → Prop}

/-- A record: its form has the checks of its fields, none of them is what a date is written as, and
    what is built from entries that fit is what they hold. -/
structure RecordOf (form : Form) (fields : List Field) (build : Fields → Except FieldFault α)
    (HoldsBy : (String → Option Value) → α → Prop) : Prop where
  checks : form.Checks fields
  noMoment : "$__toml_private_datetime" ∉ fields.map Field.name
  build_iff : ∀ e a, (∀ f ∈ fields, ∀ v, e.entries.lookup f.name = some v → f.Fits v) →
    (build e = .ok a ↔ HoldsBy (e.entries.lookup ·) a)
  complete : ∀ get a, HoldsBy get a → ∀ f ∈ fields, f.mayMiss = false → ∃ v, get f.name = some v
  exists_holds : ∀ get, Supplied fields get → ∃ a, HoldsBy get a

/-- The entries of a record are visited and put together without a fault exactly if they are those
    of a record, and the result is what they hold. -/
theorem RecordOf.entries_iff (h : RecordOf form fields build HoldsBy) (entries : Table)
    (absent : String → FieldFault) (a : α) :
    (visit form entries = .ok () ∧ build ⟨entries, absent⟩ = .ok a) ↔
      FitsTable fields entries ∧ HoldsBy (entries.lookup ·) a := by
  have hfits (hknown : ∀ e ∈ entries, ∃ f ∈ fields, f.name = e.1 ∧ f.Fits e.2) :
      ∀ f ∈ fields, ∀ v, entries.lookup f.name = some v → f.Fits v := by
    intro f hf v hv
    obtain ⟨f', hf', hname, hfit⟩ := hknown _ (mem_of_lookup hv)
    rwa [← List.inj_on_of_nodup_map h.checks.nodup hf' hf hname]
  rw [visit_eq_ok_iff h.checks]
  constructor
  · rintro ⟨hknown, hbuild⟩
    have hholds := (h.build_iff ⟨entries, absent⟩ a (hfits hknown)).mp hbuild
    refine ⟨⟨hknown, fun f hf hmiss => ?_⟩, hholds⟩
    obtain ⟨v, hv⟩ := h.complete _ a hholds f hf hmiss
    exact ⟨v, mem_of_lookup hv⟩
  · rintro ⟨hrecord, hholds⟩
    exact ⟨hrecord.known, (h.build_iff ⟨entries, absent⟩ a (hfits hrecord.known)).mpr hholds⟩

/-- **Records are decoded exactly,** in both notations. -/
theorem RecordOf.decodes (h : RecordOf form fields build HoldsBy) (name : String) :
    Decodes (record name form build) (IsRecord fields) (fun v a => HoldsBy (given fields v) a) where
  eq_ok_iff := by
    intro v a
    have hentries : ∀ entries absent,
        (do visit form entries; build ⟨entries, absent⟩) = .ok a ↔
          FitsTable fields entries ∧ HoldsBy (entries.lookup ·) a := by
      intro entries absent
      rw [← h.entries_iff entries absent a, bind_eq_ok_iff]
      exact ⟨fun ⟨⟨⟩, hv, hb⟩ => ⟨hv, hb⟩, fun ⟨hv, hb⟩ => ⟨(), hv, hb⟩⟩
    cases v with
    | table entries =>
      rw [record, hentries]
      exact ⟨fun ⟨hf, hh⟩ => ⟨.table hf, hh⟩, fun ⟨.table hf, hh⟩ => ⟨hf, hh⟩⟩
    | array items =>
      rw [record, h.checks.names_eq, hentries, ← fitsArray_iff h.checks.nodup, given_array]
      exact ⟨fun ⟨hf, hh⟩ => ⟨.array hf, hh⟩, fun ⟨.array hf, hh⟩ => ⟨hf, hh⟩⟩
    | moment text =>
      have hmoment : ¬ FitsTable fields (momentTable text) := by
        intro hf
        obtain ⟨f, hf, hname, -⟩ := hf.known _ (List.mem_singleton.mpr rfl)
        exact h.noMoment (List.mem_map.mpr ⟨f, hf, hname⟩)
      rw [record, hentries]
      exact ⟨fun ⟨hf, _⟩ => absurd hf hmoment, fun ⟨hr, _⟩ => (nomatch hr)⟩
    | _ => exact ⟨fun hr => (nomatch hr), fun ⟨hr, _⟩ => (nomatch hr)⟩
  exists_holds := by
    intro v hv
    cases hv with
    | table hf => exact h.exists_holds _ (hf.supplied h.checks.nodup)
    | @array items hf =>
      obtain ⟨a, ha⟩ := h.exists_holds _
        (((fitsArray_iff h.checks.nodup).mp hf).supplied h.checks.nodup)
      refine ⟨a, ?_⟩
      rwa [given_array]

end

/-! ### Fields of a record -/

section

variable {α : Type} {d : Decoder α} {Fits : Value → Prop} {Holds : Value → α → Prop} {e : Fields}
  {name : String} {a : α}

/-- A field that has to be there is decoded. -/
theorem required_eq_ok_iff :
    e.required name d = .ok a ↔ ∃ v, e.entries.lookup name = some v ∧ d v = .ok a := by
  rw [Fields.required]
  cases e.entries.lookup name <;> simp

theorem required_text_iff {s : String} :
    e.required name text = .ok s ↔ e.entries.lookup name = some (.string s) := by
  simp [required_eq_ok_iff, text_eq_ok_iff]

theorem required_texts_iff {ss : List String} : e.required name (list text) = .ok ss ↔
    e.entries.lookup name = some (.array (ss.map .string)) := by
  simp [required_eq_ok_iff, list_text_eq_ok_iff]

/-- A field whose value fits gives what it holds. -/
theorem Decodes.required_iff (h : Decodes d Fits Holds)
    (hfits : ∀ v, e.entries.lookup name = some v → Fits v) :
    e.required name d = .ok a ↔ ∃ v, e.entries.lookup name = some v ∧ Holds v a := by
  rw [required_eq_ok_iff]
  refine exists_congr fun v => and_congr_right fun hv => ?_
  rw [h.eq_ok_iff]
  exact and_iff_right (hfits v hv)

/-- A field that may be left out counts as its default then. -/
theorem optional_eq_ok_iff {default : α} {v : Value} (hdefault : ∀ b, d v = .ok b ↔ b = default) :
    e.optional name d default = .ok a ↔ d ((e.entries.lookup name).getD v) = .ok a := by
  rw [Fields.optional]
  cases e.entries.lookup name with
  | none => simp [hdefault, eq_comm]
  | some w => rfl

theorem optional_texts_iff {ss : List String} : e.optional name (list text) [] = .ok ss ↔
    (e.entries.lookup name).getD (.array []) = .array (ss.map .string) := by
  rw [optional_eq_ok_iff (v := .array []) (by simp [list, pure, Except.pure, eq_comm]),
    list_text_eq_ok_iff]

theorem optional_flag_iff {b : Bool} : e.optional name flag false = .ok b ↔
    (e.entries.lookup name).getD (.boolean false) = .boolean b := by
  rw [optional_eq_ok_iff (v := .boolean false) (by simp [flag, eq_comm]), flag_eq_ok_iff]

end

/-! ### The records of a profile -/

theorem decodes_head :
    Decodes headSource (IsRecord headFields) (fun v h => HoldsHead (given headFields v) h) := by
  refine RecordOf.decodes ⟨⟨?checks, by decide⟩, by decide, ?build, ?complete, ?holds⟩ "HeadSource"
  case checks =>
    exact .cons ⟨rfl, decodes_text.checking_iff⟩ <| .cons ⟨rfl, decodes_text.checking_iff⟩ .nil
  case build =>
    intro e h _
    simp only [bind_eq_ok_iff, required_text_iff]
    constructor
    · rintro ⟨url, hurl, branch, hbranch, ⟨⟩⟩
      exact ⟨hurl, hbranch⟩
    · rintro ⟨hurl, hbranch⟩
      exact ⟨_, hurl, _, hbranch, rfl⟩
  case complete =>
    rintro get h ⟨hurl, hbranch⟩
    simp [headFields, hurl, hbranch]
  case holds =>
    intro get hget
    obtain ⟨url, hurl⟩ := hget.exists_text "url" (i := 0) rfl
    obtain ⟨branch, hbranch⟩ := hget.exists_text "branch" (i := 1) rfl
    exact ⟨⟨url, branch⟩, hurl, hbranch⟩

theorem decodes_runtime : Decodes runtimeLayout (IsRecord runtimeFields)
    (fun v r => HoldsRuntime (given runtimeFields v) r) := by
  refine RecordOf.decodes ⟨⟨?checks, by decide⟩, by decide, ?build, ?complete, ?holds⟩
    "RuntimeLayout"
  case checks =>
    exact .cons ⟨rfl, decodes_text.checking_iff⟩ <| .cons ⟨rfl, decodes_text.checking_iff⟩ <|
      .cons ⟨rfl, decodes_text.checking_iff⟩ .nil
  case build =>
    intro e r _
    simp only [bind_eq_ok_iff, required_text_iff]
    constructor
    · rintro ⟨home, hhome, env, henv, file, hfile, ⟨⟩⟩
      exact ⟨hhome, henv, hfile⟩
    · rintro ⟨hhome, henv, hfile⟩
      exact ⟨_, hhome, _, henv, _, hfile, rfl⟩
  case complete =>
    rintro get r ⟨hhome, henv, hfile⟩
    simp [runtimeFields, hhome, henv, hfile]
  case holds =>
    intro get hget
    obtain ⟨home, hhome⟩ := hget.exists_text "home_dir" (i := 0) rfl
    obtain ⟨env, henv⟩ := hget.exists_text "db_env" (i := 1) rfl
    obtain ⟨file, hfile⟩ := hget.exists_text "db_file" (i := 2) rfl
    exact ⟨⟨home, env, file⟩, hhome, henv, hfile⟩

theorem decodes_test :
    Decodes smokeTest (IsRecord testFields) (fun v t => HoldsTest (given testFields v) t) := by
  refine RecordOf.decodes ⟨⟨?checks, by decide⟩, by decide, ?build, ?complete, ?holds⟩ "SmokeTest"
  case checks =>
    exact .cons ⟨rfl, decodes_text.checking_iff⟩ <| .cons ⟨rfl, decodes_text.checking_iff⟩ .nil
  case build =>
    intro e t _
    simp only [bind_eq_ok_iff, required_text_iff]
    constructor
    · rintro ⟨command, hcommand, expect, hexpect, ⟨⟩⟩
      exact ⟨hcommand, hexpect⟩
    · rintro ⟨hcommand, hexpect⟩
      exact ⟨_, hcommand, _, hexpect, rfl⟩
  case complete =>
    rintro get t ⟨hcommand, hexpect⟩
    simp [testFields, hcommand, hexpect]
  case holds =>
    intro get hget
    obtain ⟨command, hcommand⟩ := hget.exists_text "command" (i := 0) rfl
    obtain ⟨expect, hexpect⟩ := hget.exists_text "expect" (i := 1) rfl
    exact ⟨⟨command, expect⟩, hcommand, hexpect⟩

theorem decodes_launcher : Decodes launcher (IsRecord launcherFields)
    (fun v l => HoldsLauncher (given launcherFields v) l) := by
  refine RecordOf.decodes ⟨⟨?checks, by decide⟩, by decide, ?build, ?complete, ?holds⟩ "Launcher"
  case checks =>
    exact .cons ⟨rfl, decodes_text.checking_iff⟩ <| .cons ⟨rfl, decodes_text.checking_iff⟩ <|
      .cons ⟨rfl, decodes_text.checking_iff⟩ <| .cons ⟨rfl, decodes_flag.checking_iff⟩ .nil
  case build =>
    intro e l _
    simp only [bind_eq_ok_iff, required_text_iff, optional_flag_iff]
    constructor
    · rintro ⟨name, hname, binary, hbinary, summary, hsummary, pass, hpass, ⟨⟩⟩
      exact ⟨hname, hbinary, hsummary, hpass⟩
    · rintro ⟨hname, hbinary, hsummary, hpass⟩
      exact ⟨_, hname, _, hbinary, _, hsummary, _, hpass, rfl⟩
  case complete =>
    rintro get l ⟨hname, hbinary, hsummary, -⟩
    simp [launcherFields, hname, hbinary, hsummary]
  case holds =>
    intro get hget
    obtain ⟨name, hname⟩ := hget.exists_text "name" (i := 0) rfl
    obtain ⟨binary, hbinary⟩ := hget.exists_text "binary" (i := 1) rfl
    obtain ⟨summary, hsummary⟩ := hget.exists_text "summary" (i := 2) rfl
    obtain ⟨pass, hpass⟩ : ∃ b, (get "pass_db").getD (.boolean false) = .boolean b := by
      cases hflag : get "pass_db" with
      | none => exact ⟨false, rfl⟩
      | some v => exact hget.known _ (List.mem_of_getElem? (i := 3) rfl) v hflag
    exact ⟨⟨name, binary, summary, pass⟩, hname, hbinary, hsummary, hpass⟩

end ReleaseArtifacts.Profile
