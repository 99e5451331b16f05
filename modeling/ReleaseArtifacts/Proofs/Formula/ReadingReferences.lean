import ReleaseArtifacts.Proofs.Formula.Rendering
import ReleaseArtifacts.Proofs.Text.Nesting

namespace ReleaseArtifacts.Formula

/-!
# Reading references to variables

A shell expansion refers to a variable, and may have a fallback, in which there may be expansions
again.  What it refers to is read back from its text, and whatever follows is left.

* `Reference` — a variable, and the fallback for it if there is one.
* `splitFallback` — the name and the fallback, parted by the first `:-`.
* `reference?` — the reference that a text begins with, found by counting openings and braces.
* `reference?_eq_some_iff` — a reference is read exactly if it stands there.
* `expansions_nest` — expansions are read back, and may be fallbacks of others.
-/

open Text (Lacks Matched matched_empty matched_enclosed matched_plain_append unlines upToClosing
  upToClosing_eq_some_iff)

variable {s name : List Char} {v : Reference}

/-! ### References -/

/-- A shell variable, and the fallback for it if there is one. -/
structure Reference where
  name : String
  fallback : Option String
  deriving DecidableEq, Repr

namespace Reference

/-- The expansion of a reference. -/
def text : Reference → String
  | ⟨name, none⟩ => expansion name
  | ⟨name, some fallback⟩ => expansionOr name fallback

/-- What stands between the braces of the expansion. -/
def inside : Reference → String
  | ⟨name, none⟩ => name
  | ⟨name, some fallback⟩ => name ++ ":-" ++ fallback

theorem text_eq (v : Reference) : v.text = "$\x7b" ++ v.inside ++ "\x7d" := by
  obtain ⟨name, _ | fallback⟩ := v
  · rfl
  · simp only [text, expansionOr, inside, String.append_assoc]

end Reference

/-! ### Fallbacks -/

/-- A fallback with its mark before it. -/
def marked : Option (List Char) → List Char
  | none => []
  | some fallback => ':' :: '-' :: fallback

/-- Splits a text at the first mark of a fallback. -/
def splitFallback : List Char → List Char × Option (List Char)
  | ':' :: '-' :: s => ([], some s)
  | c :: s => (c :: (splitFallback s).1, (splitFallback s).2)
  | [] => ([], none)

theorem mark_prefix_cons {c : Char} : [':', '-'] <+: c :: s ↔ c = ':' ∧ ∃ t, s = '-' :: t := by
  cases s <;> simp [List.cons_prefix_cons, eq_comm]

/-- A name without a mark in it is followed by the first one. -/
theorem splitFallback_append (h : ¬ [':', '-'] <:+: name) (fallback : Option (List Char)) :
    splitFallback (name ++ marked fallback) = (name, fallback) := by
  induction name with
  | nil => cases fallback <;> rfl
  | cons c name ih =>
    rw [List.infix_cons_iff, not_or, mark_prefix_cons] at h
    rw [List.cons_append, splitFallback, ih h.2]
    -- The mark that follows does not begin with the last character of the name.
    rintro t rfl hname
    refine h.1 ⟨rfl, ?_⟩
    cases name with
    | nil => cases fallback <;> cases hname
    | cons a name => exact ⟨name, by cases hname; rfl⟩

/-- What is split is the name with the fallback after it, and there is no mark in the name. -/
theorem eq_of_splitFallback {fallback : Option (List Char)}
    (h : splitFallback s = (name, fallback)) :
    s = name ++ marked fallback ∧ ¬ [':', '-'] <:+: name := by
  fun_induction splitFallback s generalizing name with
  | case1 s =>
    cases h
    exact ⟨rfl, by simp⟩
  | case2 c s hc ih =>
    cases h
    obtain ⟨hs, hname⟩ := ih rfl
    refine ⟨congrArg (c :: ·) hs, ?_⟩
    rw [List.infix_cons_iff, not_or, mark_prefix_cons]
    refine ⟨?_, hname⟩
    -- A mark at the front of the name would stand at the front of the text, where it is split.
    rintro ⟨rfl, t, ht⟩
    rw [ht] at hs
    exact hc _ rfl hs
  | case3 =>
    cases h
    exact ⟨rfl, by simp⟩

namespace Reference

/-- The reference with a text between the braces of its expansion. -/
def ofInside (s : List Char) : Reference where
  name := String.ofList (splitFallback s).1
  fallback := (splitFallback s).2.map String.ofList

theorem toList_inside (v : Reference) :
    v.inside.toList = v.name.toList ++ marked (v.fallback.map String.toList) := by
  obtain ⟨name, _ | fallback⟩ := v
  · simp [inside, marked]
  · simp [inside, marked, String.toList_append]

theorem ofInside_eq_iff :
    ofInside s = v ↔ s = v.inside.toList ∧ ¬ [':', '-'] <:+: v.name.toList := by
  rw [toList_inside]
  constructor
  · rintro rfl
    obtain ⟨hs, hname⟩ := eq_of_splitFallback (s := s) rfl
    simpa [ofInside] using ⟨hs, hname⟩
  · rintro ⟨rfl, hname⟩
    obtain ⟨name, fallback⟩ := v
    simp [ofInside, splitFallback_append hname]

end Reference

/-! ### The reader -/

/-- The reference that a text begins with, and the text after it. -/
def reference? (text : String) : Option (Reference × String) :=
  match text.toList with
  | '$' :: '{' :: s => (upToClosing 0 s).map fun r => (.ofInside r.1, String.ofList r.2)
  | _ => none

/-- **Reading is exact:** a text gives a reference and a rest if it is the expansion of the
    reference with the rest after it.  The braces inside the expansion are matched, and there is no
    mark before that of the fallback. -/
theorem reference?_eq_some_iff {text rest : String} :
    reference? text = some (v, rest) ↔
      text = v.text ++ rest ∧ Matched v.inside ∧ ¬ [':', '-'] <:+: v.name.toList := by
  have htext : text = v.text ++ rest ↔
      text.toList = '$' :: '{' :: (v.inside.toList ++ '}' :: rest.toList) := by
    rw [← String.toList_inj, v.text_eq]
    simp [String.toList_append]
  rw [htext]
  constructor
  · intro h
    unfold reference? at h
    split at h
    · rename_i s hs
      obtain ⟨⟨inside, after⟩, hread, heq⟩ := Option.map_eq_some_iff.mp h
      obtain ⟨hv, rfl⟩ := Prod.mk.inj heq
      obtain ⟨rfl, hname⟩ := Reference.ofInside_eq_iff.mp hv
      obtain ⟨rfl, hmatched⟩ := upToClosing_eq_some_iff.mp hread
      exact ⟨by rw [hs, String.toList_ofList], hmatched, hname⟩
    · cases h
  · rintro ⟨hchars, hmatched, hname⟩
    have hread : upToClosing 0 (v.inside.toList ++ '}' :: rest.toList) =
        some (v.inside.toList, rest.toList) := upToClosing_eq_some_iff.mpr ⟨rfl, hmatched⟩
    have hv : Reference.ofInside v.inside.toList = v :=
      Reference.ofInside_eq_iff.mpr ⟨rfl, hname⟩
    simp only [reference?, hchars, hread, Option.map_some, hv, String.ofList_toList]

example : reference? "$\x7bA:-$\x7bB\x7d" = none := by decide

/-! ### Names and fallbacks that are read back -/

/-- A name without the characters that close, divide or open an expansion. -/
structure Unmarked (name : String) : Prop where
  brace : Lacks '}' name
  colon : Lacks ':' name
  dollar : Lacks '$' name

instance (name : String) : Decidable (Unmarked name) :=
  decidable_of_iff (Lacks '}' name ∧ Lacks ':' name ∧ Lacks '$' name)
    ⟨fun h => ⟨h.1, h.2.1, h.2.2⟩, fun h => ⟨h.brace, h.colon, h.dollar⟩⟩

theorem Unmarked.not_infix {name : String} (h : Unmarked name) :
    ¬ [':', '-'] <:+: name.toList :=
  fun hmark => h.colon (hmark.subset List.mem_cons_self)

/-- Before any text such a name changes nothing. -/
theorem Unmarked.matched_append {name : String} (h : Unmarked name) (s : String) :
    Matched (name ++ s) ↔ Matched s :=
  matched_plain_append h.dollar h.brace

namespace Reference

theorem matched_inside (hname : Unmarked v.name) (hfallback : ∀ f ∈ v.fallback, Matched f) :
    Matched v.inside := by
  obtain ⟨name, _ | fallback⟩ := v
  · have hempty : Matched (name ++ "") := (hname.matched_append "").mpr matched_empty
    rwa [String.append_empty] at hempty
  · have hmarked : Matched (":-" ++ fallback) :=
      (matched_plain_append (by decide) (by decide)).mpr (hfallback fallback rfl)
    rw [inside, String.append_assoc]
    exact (hname.matched_append _).mpr hmarked

/-- A reference is read back, and what follows it is left. -/
theorem reference?_text_append (hname : Unmarked v.name)
    (hfallback : ∀ f ∈ v.fallback, Matched f) (rest : String) :
    reference? (v.text ++ rest) = some (v, rest) :=
  reference?_eq_some_iff.mpr ⟨rfl, matched_inside hname hfallback, hname.not_infix⟩

/-- A reference between matched texts makes a matched text, which may be a fallback again. -/
theorem matched_between (hname : Unmarked v.name) (hfallback : ∀ f ∈ v.fallback, Matched f)
    {before after : String} (hbefore : Matched before) (hafter : Matched after) :
    Matched (before ++ v.text ++ after) := by
  rw [v.text_eq]
  exact matched_enclosed hbefore (matched_inside hname hfallback) hafter

theorem matched_text (hname : Unmarked v.name) (hfallback : ∀ f ∈ v.fallback, Matched f) :
    Matched v.text := by
  have hbetween := matched_between hname hfallback matched_empty matched_empty
  rwa [String.empty_append, String.append_empty] at hbetween

end Reference

/-! ### The database of a launcher -/

/-- Where a launcher looks for the database: a variable, or a file in the data directory. -/
def databaseReference (r : RuntimeLayout) : Reference where
  name := r.dbEnv
  fallback := some ("$\x7bAPP_ROOT\x7d/data/" ++ r.dbFile)

theorem databaseLine_eq (r : RuntimeLayout) :
    databaseLine r =
      "      export " ++ r.dbEnv ++ "=\"" ++ ((databaseReference r).text ++ "\"") := by
  unfold databaseLine databaseReference Reference.text expansionOr
  simp only [String.append_assoc]

/-- The fallback is an expansion itself, with the file after it. -/
theorem matched_databaseFallback {file : String} (hfile : Matched file) :
    Matched ("$\x7bAPP_ROOT\x7d/data/" ++ file) := by
  have hroot : "$\x7bAPP_ROOT\x7d/data/" ++ file =
      "" ++ (Reference.mk "APP_ROOT" none).text ++ ("/data/" ++ file) := by
    rw [String.empty_append, ← String.append_assoc]
    rfl
  have hname : Unmarked "APP_ROOT" := by decide
  have hafter : Matched ("/data/" ++ file) :=
    (matched_plain_append (by decide) (by decide)).mpr hfile
  rw [hroot]
  exact Reference.matched_between hname (by simp) matched_empty hafter

/-- The line about the database is in the formula of every package with launchers. -/
theorem formulaLines_eq_database {p : Profile} (hl : p.launchers ≠ []) (r : Release) :
    ∃ before after, formulaLines p r = before ++ databaseLine p.runtime :: after := by
  obtain ⟨l, rest, hlaunchers⟩ := List.exists_cons_of_ne_nil hl
  refine List.append_of_mem ?_
  simp [formulaLines, bodyLines, scriptLines, bootstrapLines, hlaunchers]

/-! ### Nesting -/

/-- **Expansions nest without ambiguity.**  An expansion of an unmarked name, with a matched
    fallback or without one, is read back in front of any text, which is left as it is; and it is a
    matched text again, so that it may itself be a fallback, to any depth.  Nothing is read but what
    stands there.  So the line about the database, which is in the formula of every package with
    launchers, gives back the variable and the file of the package. -/
theorem expansions_nest :
    (∀ name fallback rest, Unmarked name → Matched fallback →
      reference? (expansionOr name fallback ++ rest) = some (⟨name, some fallback⟩, rest)) ∧
    (∀ name rest, Unmarked name →
      reference? (expansion name ++ rest) = some (⟨name, none⟩, rest)) ∧
    (∀ name fallback, Unmarked name → Matched fallback → Matched (expansionOr name fallback)) ∧
    (∀ name, Unmarked name → Matched (expansion name)) ∧
    (∀ text v rest, reference? text = some (v, rest) ↔
      text = v.text ++ rest ∧ Matched v.inside ∧ ¬ [':', '-'] <:+: v.name.toList) ∧
    ∀ p : Profile, Unmarked p.runtime.dbEnv → Matched p.runtime.dbFile →
      ∃ written, databaseLine p.runtime = "      export " ++ p.runtime.dbEnv ++ "=\"" ++ written ∧
        reference? written = some (databaseReference p.runtime, "\"") ∧
        ∀ r, p.launchers ≠ [] → p.columnWidth ≤ 65535 → ∃ before after,
          rendered p r = .ok (unlines (before ++ databaseLine p.runtime :: after)) := by
  refine ⟨fun name fallback rest hname hfallback => ?_, fun name rest hname => ?_,
    fun name fallback hname hfallback => ?_, fun name hname => ?_,
    fun _ _ _ => reference?_eq_some_iff, fun p hname hfile => ?_⟩
  · exact Reference.reference?_text_append (v := ⟨name, some fallback⟩) hname (by simpa) rest
  · exact Reference.reference?_text_append (v := ⟨name, none⟩) hname (by simp) rest
  · exact Reference.matched_text (v := ⟨name, some fallback⟩) hname (by simpa)
  · exact Reference.matched_text (v := ⟨name, none⟩) hname (by simp)
  · have hfallback : ∀ f ∈ (databaseReference p.runtime).fallback, Matched f := by
      simpa [databaseReference] using matched_databaseFallback hfile
    refine ⟨_, databaseLine_eq p.runtime, Reference.reference?_text_append hname hfallback "\"",
      fun r hl hwidth => ?_⟩
    obtain ⟨before, after, hlines⟩ := formulaLines_eq_database hl r
    exact ⟨before, after, by rw [rendered_of_width p r hwidth, formulaText, hlines]⟩

/-- A fallback with two more expansions in it, one inside the other, in front of braces that belong
    to neither; and the line about the database in the formula of the application. -/
theorem expansions_nest_application :
    Unmarked "BUTTERFLY_BOT_DB" ∧ Matched "$\x7bAPP_ROOT:-$\x7bHOME\x7d/.bot\x7d/bot.db" ∧
    reference? (expansionOr "BUTTERFLY_BOT_DB" "$\x7bAPP_ROOT:-$\x7bHOME\x7d/.bot\x7d/bot.db" ++
      "\x7d:-$\x7b") =
        some (⟨"BUTTERFLY_BOT_DB", some "$\x7bAPP_ROOT:-$\x7bHOME\x7d/.bot\x7d/bot.db"⟩,
          "\x7d:-$\x7b") ∧
    Matched (expansionOr "BUTTERFLY_BOT_DB" "$\x7bAPP_ROOT:-$\x7bHOME\x7d/.bot\x7d/bot.db") ∧
    reference? (expansion "BUTTERFLY_BOT_DB" ++ "\x7d") =
      some (⟨"BUTTERFLY_BOT_DB", none⟩, "\x7d") ∧
    ∃ written, databaseLine Profile.application.runtime =
        "      export BUTTERFLY_BOT_DB=\"" ++ written ∧
      reference? written =
        some (⟨"BUTTERFLY_BOT_DB", some "$\x7bAPP_ROOT\x7d/data/butterfly-bot.db"⟩, "\"") ∧
      ∃ before after, rendered Profile.application braceRelease =
        .ok (unlines (before ++ databaseLine Profile.application.runtime :: after)) := by
  have hname : Unmarked "BUTTERFLY_BOT_DB" := by decide
  have hfallback : Matched "$\x7bAPP_ROOT:-$\x7bHOME\x7d/.bot\x7d/bot.db" := by decide
  obtain ⟨hreads, hreadsName, hmatched, -, -, hformula⟩ := expansions_nest
  refine ⟨hname, hfallback, hreads _ _ _ hname hfallback, hmatched _ _ hname hfallback,
    hreadsName _ _ hname, ?_⟩
  obtain ⟨written, hline, hread, hrendered⟩ :=
    hformula Profile.application (by decide) (by decide)
  exact ⟨written, hline, hread, hrendered braceRelease (by decide) (by decide)⟩

end ReleaseArtifacts.Formula
