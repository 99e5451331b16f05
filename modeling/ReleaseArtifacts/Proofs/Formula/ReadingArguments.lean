import ReleaseArtifacts.Proofs.Formula.Rendering
import ReleaseArtifacts.Proofs.Formula.Texts

namespace ReleaseArtifacts.Formula

/-!
# Reading argument lists

The arguments of a call are read back from their text, if there is no double quote in any of them.
An argument may be empty, and there may be commas and spaces in it: where it ends is told by the
quotes alone.

* `itemsInside`, `itemsAfter` — a reader that is inside an item, or after one.
* `arguments?` — the arguments that a text gives.
* `arguments?_eq_some_iff` — a text gives arguments exactly if it is theirs.
* `buildCommand_recovered` — the command that builds the binaries is read back from its line.
-/

open Text (Lacks unlines)

variable {item text : List Char} {items : List (List Char)}

/-! ### The reader -/

mutual

/-- The items of a text that begins inside the first one. -/
def itemsInside : (text : List Char) → Option (List (List Char))
  | [] => none
  | c :: rest =>
    if c = '"' then (itemsAfter rest).map ([] :: ·)
    else (itemsInside rest).map (List.modifyHead (c :: ·))

/-- The items of a text that begins after one: there are no more, or a comma and a space come before
    the next one. -/
def itemsAfter : (text : List Char) → Option (List (List Char))
  | [] => some []
  | ',' :: ' ' :: '"' :: rest => itemsInside rest
  | _ => none

end

/-- The items of a text, each of them between double quotes. -/
def items? : (text : List Char) → Option (List (List Char))
  | [] => some []
  | '"' :: rest => itemsInside rest
  | _ => none

/-- The arguments that a text gives. -/
def arguments? (text : String) : Option (List String) :=
  (items? text.toList).map (List.map String.ofList)

/-! ### Single items -/

/-- An item ends at the first quote. -/
theorem itemsInside_append (h : '"' ∉ item) (rest : List Char) :
    itemsInside (item ++ '"' :: rest) = (itemsAfter rest).map (item :: ·) := by
  induction item with
  | nil => rw [List.nil_append, itemsInside, if_pos rfl]
  | cons c item ih =>
    obtain ⟨hc, hitem⟩ := not_or.mp (mt List.mem_cons.mpr h)
    rw [List.cons_append, itemsInside, if_neg (Ne.symm hc), ih hitem, Option.map_map]
    rfl

/-- Where an item was read there is one, with a quote after it. -/
theorem exists_of_itemsInside (h : itemsInside text = some items) :
    ∃ item others rest, items = item :: others ∧ text = item ++ '"' :: rest ∧ '"' ∉ item ∧
      itemsAfter rest = some others := by
  induction text generalizing items with
  | nil => cases h
  | cons c text ih =>
    rw [itemsInside] at h
    split at h
    · rename_i hc
      obtain ⟨others, hothers, rfl⟩ := Option.map_eq_some_iff.mp h
      exact ⟨[], others, text, rfl, by rw [hc, List.nil_append], List.not_mem_nil, hothers⟩
    · rename_i hc
      obtain ⟨inner, hinner, rfl⟩ := Option.map_eq_some_iff.mp h
      obtain ⟨item, others, rest, rfl, rfl, hitem, hothers⟩ := ih hinner
      refine ⟨c :: item, others, rest, rfl, rfl, ?_, hothers⟩
      rw [List.mem_cons, not_or]
      exact ⟨Ne.symm hc, hitem⟩

/-! ### Several items -/

/-- Items with a comma and a space before each of them. -/
def trail (items : List (List Char)) : List Char :=
  items.flatMap fun item => ',' :: ' ' :: '"' :: (item ++ ['"'])

theorem trail_cons (item : List Char) (items : List (List Char)) :
    trail (item :: items) = ',' :: ' ' :: '"' :: (item ++ '"' :: trail items) := by
  rw [trail, List.flatMap_cons, ← trail]
  simp only [List.cons_append, List.append_assoc, List.nil_append]

/-- Where a separator is read an item begins. -/
theorem itemsAfter_eq_some_iff_cons :
    itemsAfter text = some (item :: items) ↔
      ∃ more, text = ',' :: ' ' :: '"' :: more ∧ itemsInside more = some (item :: items) := by
  constructor
  · intro h
    unfold itemsAfter at h
    split at h
    · cases h
    · rename_i more
      exact ⟨more, rfl, h⟩
    · cases h
  · rintro ⟨more, rfl, h⟩
    rw [itemsAfter, h]

theorem itemsAfter_eq_nil_iff : itemsAfter text = some [] ↔ text = [] := by
  constructor
  · intro h
    unfold itemsAfter at h
    split at h
    · rfl
    · obtain ⟨_, _, _, hitems, -⟩ := exists_of_itemsInside h
      cases hitems
    · cases h
  · rintro rfl
    rw [itemsAfter]

/-- **What is read after an item** are the items that stand there. -/
theorem itemsAfter_eq_some_iff :
    itemsAfter text = some items ↔ (∀ item ∈ items, '"' ∉ item) ∧ text = trail items := by
  -- On the items: each of them is read up to its quote, and the others after it.
  induction items generalizing text with
  | nil => simpa [trail] using itemsAfter_eq_nil_iff
  | cons item items ih =>
    rw [itemsAfter_eq_some_iff_cons, List.forall_mem_cons, trail_cons]
    constructor
    · rintro ⟨more, rfl, hmore⟩
      obtain ⟨item', others, rest, hitems, rfl, hitem, hothers⟩ := exists_of_itemsInside hmore
      obtain ⟨rfl, rfl⟩ := List.cons_eq_cons.mp hitems
      obtain ⟨hclean, rfl⟩ := ih.mp hothers
      exact ⟨⟨hitem, hclean⟩, rfl⟩
    · rintro ⟨⟨hitem, hclean⟩, rfl⟩
      refine ⟨_, rfl, ?_⟩
      rw [itemsInside_append hitem, ih.mpr ⟨hclean, rfl⟩, Option.map_some]

/-- What is read inside an item is the rest of it, and the items after it. -/
theorem itemsInside_eq_some_iff :
    itemsInside text = some (item :: items) ↔
      (∀ i ∈ item :: items, '"' ∉ i) ∧ text = item ++ '"' :: trail items := by
  rw [List.forall_mem_cons]
  constructor
  · intro h
    obtain ⟨item', others, rest, hitems, rfl, hitem, hothers⟩ := exists_of_itemsInside h
    obtain ⟨rfl, rfl⟩ := List.cons_eq_cons.mp hitems
    obtain ⟨hclean, rfl⟩ := itemsAfter_eq_some_iff.mp hothers
    exact ⟨⟨hitem, hclean⟩, rfl⟩
  · rintro ⟨⟨hitem, hclean⟩, rfl⟩
    rw [itemsInside_append hitem, itemsAfter_eq_some_iff.mpr ⟨hclean, rfl⟩, Option.map_some]

/-- Items as they are written: the first one has no comma before it. -/
def written : (items : List (List Char)) → List Char
  | [] => []
  | item :: items => '"' :: (item ++ '"' :: trail items)

/-- **What is read** are the items that were written. -/
theorem items?_eq_some_iff :
    items? text = some items ↔ (∀ item ∈ items, '"' ∉ item) ∧ text = written items := by
  cases items with
  | nil =>
    constructor
    · intro h
      unfold items? at h
      split at h
      · exact ⟨by simp, rfl⟩
      · obtain ⟨_, _, _, hitems, -⟩ := exists_of_itemsInside h
        cases hitems
      · cases h
    · rintro ⟨-, rfl⟩
      rfl
  | cons item items =>
    constructor
    · intro h
      unfold items? at h
      split at h
      · cases h
      · obtain ⟨hclean, rfl⟩ := itemsInside_eq_some_iff.mp h
        exact ⟨hclean, rfl⟩
      · cases h
    · rintro ⟨hclean, rfl⟩
      exact itemsInside_eq_some_iff.mpr ⟨hclean, rfl⟩

/-! ### Argument lists -/

variable {args : List String}

/-- An argument list is written item by item. -/
theorem toList_argumentList (args : List String) :
    (argumentList args).toList = written (args.map String.toList) := by
  have hquoted (a : String) : ("\"" ++ a ++ "\"").toList = '"' :: (a.toList ++ ['"']) := by
    rw [String.toList_append, String.toList_append]
    rfl
  induction args with
  | nil => rfl
  | cons a args ih =>
    cases args with
    | nil =>
      rw [argumentList_singleton, hquoted]
      rfl
    | cons b args =>
      rw [← List.singleton_append, argumentList_append (by simp) (by simp), argumentList_singleton,
        String.toList_append, String.toList_append, hquoted, ih]
      simp only [List.map_cons, written, trail_cons, List.cons_append,
        List.append_assoc, List.nil_append]
      rfl

/-- Arguments have an empty text only if there are none. -/
theorem argumentList_eq_empty_iff : argumentList args = "" ↔ args = [] := by
  rw [← String.toList_inj, toList_argumentList]
  cases args <;> simp [written]

/-- **Reading accepts exactly what is written:** a text gives arguments if it is their text, and
    none of them has a double quote. -/
theorem arguments?_eq_some_iff {text : String} :
    arguments? text = some args ↔ (∀ a ∈ args, Lacks '"' a) ∧ argumentList args = text := by
  have hitems : arguments? text = some args ↔
      items? text.toList = some (args.map String.toList) := by
    rw [arguments?, Option.map_eq_some_iff]
    constructor
    · rintro ⟨items, hitems, rfl⟩
      rw [hitems, List.map_map]
      simp
    · intro h
      refine ⟨_, h, ?_⟩
      rw [List.map_map]
      simp
  rw [hitems, items?_eq_some_iff, List.forall_mem_map, ← toList_argumentList, String.toList_inj,
    eq_comm]
  rfl

example : arguments? "\"a\" \"b\"" = none := by decide

/-! ### The command that builds the binaries -/

/-- The line with the command is the first one of the installation. -/
theorem formulaLines_eq_installation (p : Profile) (r : Release) :
    ∃ before after, formulaLines p r = before ++ systemLine p :: after ∧
      before.getLast? = some "  def install" := by
  refine ⟨headLines p r ++ (p.buildDependencies.map dependencyLine ++ ["", "  def install"]),
    "" :: (p.binaries.map binaryLine ++ (moduleLines ++
      (p.launchers.flatMap (scriptLines p.runtime) ++ (p.launchers.map modeLine ++
        (caveatsLines ++ (p.launchers.map (commandLine p.columnWidth) ++ tailLines p)))))), ?_, ?_⟩
  · simp only [formulaLines, bodyLines, buildLines, List.append_assoc, List.cons_append,
      List.nil_append]
  · simp

/-- **The text of a call determines its arguments.**  What is read from a text are the arguments of
    which it is the text, as long as none of them has a double quote, and only no arguments at all
    have an empty text.  So the line that builds the binaries of a package gives the command and one
    pair of arguments for each of them, in their order; every formula of the package has that
    line. -/
theorem buildCommand_recovered :
    (∀ args text, arguments? text = some args ↔
      (∀ a ∈ args, Lacks '"' a) ∧ argumentList args = text) ∧
    (∀ args, argumentList args = "" ↔ args = []) ∧
    ∀ p : Profile, (∀ b ∈ p.binaries, Lacks '"' b) →
      ∃ written, systemLine p = "    system " ++ written ∧
        arguments? written = some (["cargo", "build", "--release", "--locked"] ++
          p.binaries.flatMap fun b => ["--bin", b]) ∧
        ∀ r, p.columnWidth ≤ 65535 → ∃ before after,
          rendered p r = .ok (unlines (before ++ systemLine p :: after)) ∧
            before.getLast? = some "  def install" := by
  refine ⟨fun _ _ => arguments?_eq_some_iff, fun _ => argumentList_eq_empty_iff, fun p hp => ?_⟩
  refine ⟨argumentList p.buildInvocation, rfl,
    arguments?_eq_some_iff.mpr ⟨lacks_buildInvocation (by decide) hp, rfl⟩, fun r hwidth => ?_⟩
  obtain ⟨before, after, hlines, hlast⟩ := formulaLines_eq_installation p r
  refine ⟨before, after, ?_, hlast⟩
  rw [rendered_of_width p r hwidth, formulaText, hlines]

/-- Arguments that look like separators, and the command of a package with two binaries. -/
theorem buildCommand_recovered_application :
    arguments? "\"a, b\", \"\", \", \"" = some ["a, b", "", ", "] ∧
    (∀ b ∈ Profile.application.binaries, Lacks '"' b) ∧
    ∃ written, systemLine Profile.application = "    system " ++ written ∧
      arguments? written = some ["cargo", "build", "--release", "--locked", "--bin",
        "butterfly-bot", "--bin", "butterfly-botd"] ∧
      ∃ before after, rendered Profile.application braceRelease =
        .ok (unlines (before ++ systemLine Profile.application :: after)) := by
  have hbinaries : ∀ b ∈ Profile.application.binaries, Lacks '"' b := by decide
  refine ⟨(buildCommand_recovered.1 _ _).mpr ⟨by decide, by decide⟩, hbinaries, ?_⟩
  obtain ⟨written, hline, hread, hrendered⟩ :=
    buildCommand_recovered.2.2 Profile.application hbinaries
  obtain ⟨before, after, htext, -⟩ := hrendered braceRelease (by decide)
  exact ⟨written, hline, hread, before, after, htext⟩

end ReleaseArtifacts.Formula
