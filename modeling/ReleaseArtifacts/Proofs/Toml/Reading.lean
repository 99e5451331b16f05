import ReleaseArtifacts.Proofs.Reading
import ReleaseArtifacts.Proofs.Toml.Writing

namespace ReleaseArtifacts.Toml

/-!
# What is written is read back: keys and values

* `Quotes.reads` — a string between double quotes.
* `Bare.reads_keyPath` — a key without quotes, as a path of its own.
* `reads_arrayRest` — an array of strings.
* `Writes.reads_value` — any of the values that `Writes` knows.
-/

/-! ### Strings -/

theorem hexDigit?_of_isDigit {n : Nat} {x : Char} (hn : n < 16) (h : IsDigit n x) :
    Text.hexDigit? x = some n := by
  have hall : ∀ n < 16, Text.hexDigit? (Nat.digitChar n) = some n ∧
      Text.hexDigit? (Nat.digitChar n).toUpper = some n := by decide
  rcases h with rfl | rfl
  · exact (hall n hn).1
  · exact (hall n hn).2

/-- The digits of a code point give the character. -/
theorem codeChar?_digits {c x₃ x₂ x₁ x₀ : Char} (h : c.toNat < 0x10000)
    (h₃ : IsDigit (c.toNat / 0x1000) x₃) (h₂ : IsDigit (c.toNat / 0x100 % 0x10) x₂)
    (h₁ : IsDigit (c.toNat / 0x10 % 0x10) x₁) (h₀ : IsDigit (c.toNat % 0x10) x₀) :
    codeChar? [x₃, x₂, x₁, x₀] = some c := by
  have hnumber : Text.hexNumber? [x₃, x₂, x₁, x₀] = some c.toNat := by
    simp only [Text.hexNumber?, List.foldlM_cons, List.foldlM_nil,
      hexDigit?_of_isDigit (by omega) h₃, hexDigit?_of_isDigit (by omega) h₂,
      hexDigit?_of_isDigit (by omega) h₁, hexDigit?_of_isDigit (by omega) h₀, Option.map_some,
      Option.bind_eq_bind, Option.bind_some, Option.pure_def]
    congr 1
    omega
  have hvalid : c.toNat.isValidChar := c.valid
  rw [codeChar?, hnumber, Option.bind_some, Text.charOf?, if_pos hvalid, Char.ofNat_toNat]

/-- A spelled character is read as one step of a quotation. -/
theorem Spells.lineStep_eq_next {c : Char} {part : List Char} (h : Spells c part)
    (done rest : List Char) :
    ∃ k, lineStep true '"' done (part ++ rest) = .next ⟨c :: done, rest, k⟩ := by
  cases h with
  | plain hquote hmark htext =>
    have hc : isText c = true := by simp [isText, htext]
    refine ⟨Nat.lt_succ_self _, ?_⟩
    simp [lineStep, hquote, hmark, hc, Read.first]
  | marked h =>
    obtain ⟨k, hescape⟩ : Reads escape ('\\' :: c :: rest) c rest := by
      refine ⟨by simp only [List.length_cons]; omega, ?_⟩
      rcases h with rfl | rfl <;> rfl
    refine ⟨k, ?_⟩
    simp [lineStep, hescape, Read.map]
  | @code x₃ x₂ x₁ x₀ h h₃ h₂ h₁ h₀ =>
    obtain ⟨k, hescape⟩ : Reads escape ('\\' :: 'u' :: x₃ :: x₂ :: x₁ :: x₀ :: rest) c rest := by
      refine ⟨by simp only [List.length_cons]; omega, ?_⟩
      rw [escape, codeChar?_digits h h₃ h₂ h₁ h₀]
      rfl
    refine ⟨k, ?_⟩
    simp [lineStep, hescape, Read.map]

/-- A spelled string is a run of such steps, up to the closing quote. -/
theorem SpellsAll.steps {s body : List Char} (h : SpellsAll s body) (done rest : List Char) :
    Steps (lineStep true '"') done (body ++ '"' :: rest) (s.reverse ++ done) ('"' :: rest) := by
  -- On the characters of the string: each of them is read by one step, however it is spelled.
  induction h generalizing done with
  | nil => exact .stop (by simp [lineStep])
  | @cons c s part body first _ ih =>
    obtain ⟨k, hstep⟩ := first.lineStep_eq_next done (body ++ '"' :: rest)
    rw [List.append_assoc]
    refine .next hstep ?_
    rw [List.reverse_cons, List.append_assoc]
    exact ih (c :: done)

theorem Quotes.reads_basicString {s : String} {text : List Char} (h : Quotes s text)
    (rest : List Char) : Reads basicString (text ++ rest) s rest := by
  obtain @⟨body, hbody⟩ := h
  obtain ⟨hle, hloop⟩ := (hbody.steps [] rest).extend
  have htext : '"' :: (body ++ ['"']) ++ rest = '"' :: (body ++ '"' :: rest) := by simp
  rw [htext]
  refine ⟨by simp only [List.length_cons] at hle ⊢; omega, ?_⟩
  rw [basicString, lineString, if_pos rfl, hloop]
  simp

theorem SpellsAll.head_ne_quote {s body : List Char} (h : SpellsAll s body) :
    ∀ x ∈ body.head?, x ≠ '"' := by
  cases h with
  | nil => simp
  | cons first _ =>
    cases first with
    | plain hquote => simpa using hquote
    | marked => simp
    | code => simp

/-- It is no quotation on several lines, unless another quote follows. -/
theorem Quotes.reads {s : String} {text rest : List Char} (h : Quotes s text)
    (hrest : rest.head? ≠ some '"') : Reads anyString (text ++ rest) s rest := by
  have hbasic := h.reads_basicString rest
  obtain @⟨body, hbody⟩ := h
  have hany : anyString ('"' :: (body ++ ['"']) ++ rest) =
      basicString ('"' :: (body ++ ['"']) ++ rest) := by
    -- The second character is a quote in the empty string only, and then the third is not one.
    have hhead := hbody.head_ne_quote
    cases body with
    | nil =>
      cases rest with
      | nil => rfl
      | cons x rest => simp [anyString, show x ≠ '"' by simpa using hrest]
    | cons x body => simp [anyString, show x ≠ '"' by simpa using hhead]
  unfold Reads
  rw [hany]
  exact hbasic

theorem Quotes.eq_cons {s : String} {text : List Char} (h : Quotes s text) :
    ∃ tail, text = '"' :: tail := by
  obtain ⟨-⟩ := h
  exact ⟨_, rfl⟩

/-! ### Words and keys -/

/-- One or more characters of a class, up to one that is not of it. -/
theorem reads_many {accept : Char → Bool} {word rest : List Char} (hne : word ≠ [])
    (hword : ∀ c ∈ word, accept c) (hrest : ∀ x ∈ rest.head?, accept x = false) :
    Reads (many accept) (word ++ rest) word rest := by
  have hnone : rest.takeWhile accept = [] ∧ rest.dropWhile accept = rest := by
    cases rest with
    | nil => simp
    | cons x rest => simp [hrest x (by simp)]
  cases word with
  | nil => exact absurd rfl hne
  | cons c word =>
    obtain ⟨hc, hword⟩ := List.forall_mem_cons.mp hword
    refine ⟨by simp, ?_⟩
    simp [many, hc, List.takeWhile_append_of_pos hword, List.dropWhile_append_of_pos hword, hnone]

/-- A key that needs no quotes. -/
def Bare (key : String) : Prop := key.toList ≠ [] ∧ ∀ c ∈ key.toList, isBareKey c

instance (key : String) : Decidable (Bare key) := inferInstanceAs (Decidable (_ ∧ _))

theorem Bare.reads_simpleKey {key : String} (h : Bare key) {rest : List Char}
    (hrest : ∀ x ∈ rest.head?, isBareKey x = false) :
    Reads simpleKey (key.toList ++ rest) key rest := by
  obtain ⟨hlt, hmany⟩ := reads_many h.1 h.2 hrest
  obtain ⟨c, word, hkey⟩ := List.exists_cons_of_ne_nil h.1
  have hc : isBareKey c := h.2 c (by simp [hkey])
  have hdouble : c ≠ '"' := by rintro rfl; revert hc; decide
  have hsingle : c ≠ '\'' := by rintro rfl; revert hc; decide
  refine ⟨hlt, ?_⟩
  have hsimple : simpleKey (key.toList ++ rest) =
      (many isBareKey (key.toList ++ rest)).map (·.map String.ofList) := by
    rw [hkey, List.cons_append, simpleKey]
    · simpa using hdouble
    · simpa using hsingle
  rw [hsimple, hmany]
  simp [Read.map]

theorem spaces_eq {blank rest : List Char} (hblank : ∀ c ∈ blank, isSpace c)
    (hrest : ∀ x ∈ rest.head?, isSpace x = false) :
    ∃ k, spaces (blank ++ rest) = ⟨(), rest, k⟩ := by
  have hdrop : (blank ++ rest).dropWhile isSpace = rest := by
    rw [List.dropWhile_append_of_pos hblank]
    cases rest with
    | nil => rfl
    | cons x rest => simp [hrest x (by simp)]
  refine ⟨by simp, ?_⟩
  simp only [spaces, hdrop]

/-- Nothing is dropped where no blank stands. -/
theorem spaces_eq_start {input : List Char} (h : ∀ x ∈ input.head?, isSpace x = false) :
    spaces input = .start () input :=
  (spaces_eq (List.forall_mem_nil _) h).2

theorem isSpace_of_isBareKey {c : Char} (h : isBareKey c) : isSpace c = false := by
  rw [isSpace, Bool.or_eq_false_iff, decide_eq_false_iff_not, decide_eq_false_iff_not]
  constructor <;> (rintro rfl; revert h; decide)

/-- A bare key, with blanks around it. -/
theorem Bare.reads_spacedKey {key : String} (h : Bare key) {blank : List Char} {x : Char}
    (hblank : ∀ c ∈ blank, isSpace c) (hspace : isSpace x = false) (hbare : isBareKey x = false)
    (rest : List Char) :
    Reads spacedKey (key.toList ++ (blank ++ x :: rest)) key (x :: rest) := by
  have hbefore : spaces (key.toList ++ (blank ++ x :: rest)) = .start () _ := by
    obtain ⟨c, word, hkey⟩ := List.exists_cons_of_ne_nil h.1
    have hc : isSpace c = false := isSpace_of_isBareKey (h.2 c (by simp [hkey]))
    exact spaces_eq_start (by simp [hkey, hc])
  have hend : ∀ y ∈ (blank ++ x :: rest).head?, isBareKey y = false := by
    cases blank with
    | nil => simpa using hbare
    | cons b blank =>
      have hb : isBareKey b = false := by
        by_contra hb
        simpa [isSpace_of_isBareKey (Bool.eq_true_of_not_eq_false hb)] using hblank b (by simp)
      simpa using hb
  obtain ⟨hlt, hsimple⟩ := h.reads_simpleKey hend
  have hx : ∀ y ∈ (x :: rest).head?, isSpace y = false := by simpa using hspace
  obtain ⟨hle, hafter⟩ := spaces_eq hblank hx
  refine ⟨Nat.lt_of_le_of_lt hle hlt, ?_⟩
  rw [spacedKey, hbefore]
  simp only [Remnant.start, hsimple, Option.bind_eq_bind, Option.bind_some, Option.pure_def]
  rw [hafter]
  rfl

/-- A bare key, with blanks after it, is a path of its own. -/
theorem Bare.reads_keyPath {key : String} (h : Bare key) {blank : List Char}
    (hblank : ∀ c ∈ blank, isSpace c) (x : Char) (hspace : isSpace x = false)
    (hbare : isBareKey x = false) (hdot : x ≠ '.') (rest : List Char) :
    Reads keyPath (key.toList ++ (blank ++ x :: rest)) ([], key) (x :: rest) := by
  have hnone : exactly '.' (x :: rest) = none := by simp [exactly, Reader.symbol, hdot]
  obtain ⟨hlt, hkeys⟩ := Reads.separated (h.reads_spacedKey hblank hspace hbare rest) (.nil hnone)
  refine ⟨hlt, ?_⟩
  rw [keyPath, hkeys]
  rfl

/-! ### Values -/

section Values

variable {nested : Option (CharReader Value)} {s : String} {text rest : List Char}

theorem Quotes.reads_value (h : Quotes s text) (hrest : rest.head? ≠ some '"') :
    Reads (valueWith nested) (text ++ rest) (.string s) rest := by
  obtain ⟨hlt, hany⟩ := h.reads hrest
  have hvalue : valueWith nested (text ++ rest) =
      (anyString (text ++ rest)).map (·.map .string) := by
    obtain ⟨tail, rfl⟩ := h.eq_cons
    rfl
  refine ⟨hlt, ?_⟩
  rw [hvalue, hany]
  rfl

theorem reads_flag (b : Bool) (rest : List Char) :
    Reads (valueWith nested) (flagWord b ++ '\n' :: rest) (.boolean b) ('\n' :: rest) := by
  obtain ⟨hne, hparts, hscalar⟩ : flagWord b ≠ [] ∧ (∀ c ∈ flagWord b, isScalarPart c) ∧
      scalar? (flagWord b) = some (.boolean b) := by
    cases b <;> exact ⟨List.cons_ne_nil _ _, List.all_eq_true.mp rfl, rfl⟩
  have hend : ∀ x ∈ ('\n' :: rest).head?, isScalarPart x = false := by
    rintro _ ⟨⟩
    rfl
  obtain ⟨hlt, hmany⟩ := reads_many hne hparts hend
  have hbare : valueWith nested (flagWord b ++ '\n' :: rest) =
      bareValue (flagWord b ++ '\n' :: rest) := by cases b <;> rfl
  refine ⟨hlt, ?_⟩
  rw [hbare, bareValue, hmany]
  simp only [Option.bind_eq_bind, Option.bind_some, timeAfterDate, hscalar, Option.pure_def]
  rfl

/-! ### Arrays -/

theorem leaves_gap (h : gapStep () rest = .stop) : Leaves gap rest () rest :=
  (Steps.stop h).extend

theorem leaves_gap_space (h : gapStep () rest = .stop) : Leaves gap (' ' :: rest) () rest :=
  (Steps.next (r := .first () ' ' rest) rfl (.stop h)).extend

theorem reads_exactly (c : Char) (rest : List Char) : Reads (exactly c) (c :: rest) () rest := by
  refine Reads.symbol ?_ rest
  exact if_pos rfl

/-- A string among the items of an array, with a blank before it or none. -/
theorem Quotes.reads_arrayItem (h : Quotes s text) {before : List Char}
    (hbefore : Leaves gap (before ++ (text ++ rest)) () (text ++ rest))
    (hrest : rest.head? ≠ some '"') (hstop : gapStep () rest = .stop) :
    Reads (arrayItem (valueWith nested)) (before ++ (text ++ rest)) (.string s) rest := by
  obtain ⟨hle, hgap⟩ := hbefore
  obtain ⟨hlt, hvalue⟩ : Reads (valueWith nested) _ _ _ := h.reads_value hrest
  obtain ⟨_, hafter⟩ := leaves_gap hstop
  refine ⟨Nat.lt_of_lt_of_le hlt hle, ?_⟩
  rw [arrayItem, hgap]
  simp only [Option.bind_eq_bind, Option.bind_some, hvalue, hafter, Option.pure_def]
  rfl

/-- The items after the first, each of them after a comma and a blank. -/
def itemsAfter (texts : List (List Char)) : List Char :=
  texts.flatMap fun text => ',' :: ' ' :: text

theorem intercalate_cons (text : List Char) (texts : List (List Char)) :
    [',', ' '].intercalate (text :: texts) = text ++ itemsAfter texts := by
  induction texts generalizing text with
  | nil => simp [itemsAfter]
  | cons next texts ih =>
    rw [List.intercalate_cons_cons, ih]
    simp [itemsAfter]

theorem gapStep_stop_itemsAfter (texts : List (List Char)) (rest : List Char) :
    gapStep () (itemsAfter texts ++ ']' :: rest) = .stop := by
  cases texts <;> rfl

theorem chain_itemsAfter {ss : List String} {texts : List (List Char)}
    (h : List.Forall₂ Quotes ss texts) (rest : List Char) :
    Chain (exactly ',') (arrayItem (valueWith nested)) (itemsAfter texts ++ ']' :: rest)
      (ss.map .string) (']' :: rest) := by
  induction h with
  | nil => exact .nil rfl
  | @cons s text ss texts hfirst hmore ih =>
    have hinput : itemsAfter (text :: texts) ++ ']' :: rest =
      ',' :: ([' '] ++ (text ++ (itemsAfter texts ++ ']' :: rest))) := by simp [itemsAfter]
    rw [hinput]
    have hstop := gapStep_stop_itemsAfter texts rest
    refine .cons (reads_exactly ',' _) (hfirst.reads_arrayItem ?_ ?_ hstop) ih
    · obtain ⟨tail, rfl⟩ := hfirst.eq_cons
      exact leaves_gap_space rfl
    · cases texts <;> simp [itemsAfter]

/-- The items of an array, up to its closing bracket. -/
theorem reads_arrayRest {ss : List String} {texts : List (List Char)}
    (h : List.Forall₂ Quotes ss texts) (rest : List Char) :
    Reads (arrayRest (valueWith nested)) ([',', ' '].intercalate texts ++ ']' :: rest)
      (ss.map .string) rest := by
  cases h with
  | nil =>
    -- No item can be read at the closing bracket.
    obtain ⟨_, hgap⟩ : Leaves gap (']' :: rest) () _ := leaves_gap rfl
    have hnone : valueWith nested (']' :: rest) = none := rfl
    have hitems : Reader.separated (exactly ',') (arrayItem (valueWith nested)) (']' :: rest) =
        none := by
      rw [Reader.separated, arrayItem, hgap]
      simp only [hnone, Option.bind_eq_bind, Option.bind_some, Option.bind_none]
    rw [List.intercalate_nil, List.nil_append]
    refine ⟨Nat.lt_succ_self _, ?_⟩
    rw [arrayRest, hitems]
    simp only [hgap, Option.bind_eq_bind, Option.bind_some]
    rfl
  | @cons s text ss texts hfirst hmore =>
    have hinput : [',', ' '].intercalate (text :: texts) ++ ']' :: rest =
        [] ++ (text ++ (itemsAfter texts ++ ']' :: rest)) := by
      rw [intercalate_cons, List.append_assoc, List.nil_append]
    have hitem : Reads (arrayItem (valueWith nested))
        ([] ++ (text ++ (itemsAfter texts ++ ']' :: rest))) (.string s)
        (itemsAfter texts ++ ']' :: rest) := by
      refine hfirst.reads_arrayItem ?_ ?_ (gapStep_stop_itemsAfter texts rest)
      · obtain ⟨tail, rfl⟩ := hfirst.eq_cons
        exact leaves_gap rfl
      · cases texts <;> simp [itemsAfter]
    obtain ⟨hlt, hitems⟩ := hitem.separated (chain_itemsAfter hmore rest)
    obtain ⟨_, hgap⟩ : Leaves gap (']' :: rest) () _ := leaves_gap rfl
    have hcomma : exactly ',' (']' :: rest) = none := rfl
    rw [hinput]
    refine ⟨Nat.lt_of_succ_lt hlt, ?_⟩
    rw [arrayRest, hitems]
    simp only [hcomma, hgap, Option.bind_eq_bind, Option.bind_some]
    rfl

end Values

/-- **Values are read back.** -/
theorem Writes.reads_value {v : Value} {text : List Char} (h : Writes v text) (rest : List Char) :
    Reads value (text ++ '\n' :: rest) v ('\n' :: rest) := by
  cases h with
  | string h => exact h.reads_value (by simp)
  | flag b => exact reads_flag b rest
  | @strings ss texts h =>
    obtain ⟨hlt, hitems⟩ : Reads (arrayRest (valueWith (some (valueTo 78)))) _ _ _ :=
      reads_arrayRest h ('\n' :: rest)
    have hinput : '[' :: ([',', ' '].intercalate texts ++ [']']) ++ '\n' :: rest =
        '[' :: ([',', ' '].intercalate texts ++ ']' :: '\n' :: rest) := by simp
    rw [hinput]
    refine ⟨Nat.lt_succ_of_lt hlt, ?_⟩
    have hvalue : value = valueWith (some (valueWith (some (valueTo 78)))) := rfl
    rw [hvalue, valueWith]
    simp only [hitems, Option.bind_eq_bind, Option.bind_some]
    rfl

end ReleaseArtifacts.Toml
