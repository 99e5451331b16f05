import ReleaseArtifacts.Proofs.Text.Lines

namespace ReleaseArtifacts.Text

/-!
# Openings of lines

Lines are told apart by the texts that they start with.

* `Opens o l` — the line starts with `o`, which may reach to the line feed after the line; so the
  opening of an empty line is a line feed.
* `Apart` — texts that no line can both start with.
* `Opened os ls` — every line has one of the openings `os`.
* `starting start ls` — the lines that start with a text; `starting_between` finds one alone.
* `closes l` — the line ends a heredoc: nothing but its word and spaces is on it.
-/

/-! ### Openings -/

/-- The line, with its line feed, starts with `o`. -/
def Opens (o l : String) : Prop := o.toList <+: (l ++ "\n").toList

instance (o l : String) : Decidable (Opens o l) := inferInstanceAs (Decidable (_ <+: _))

/-- Neither text starts with the other. -/
def Apart (a b : String) : Prop := ¬ a.toList <+: b.toList ∧ ¬ b.toList <+: a.toList

instance (a b : String) : Decidable (Apart a b) := inferInstanceAs (Decidable (_ ∧ _))

/-- Every line has one of the openings. -/
def Opened (os ls : List String) : Prop := ∀ l ∈ ls, ∃ o ∈ os, Opens o l

instance (os ls : List String) : Decidable (Opened os ls) :=
  inferInstanceAs (Decidable (∀ l ∈ ls, ∃ o ∈ os, Opens o l))

theorem startsWith_append (o t : String) : (o ++ t).startsWith o = true := by
  rw [String.startsWith_string_iff, String.toList_append]
  exact List.prefix_append ..

/-- What a line starts with opens it. -/
theorem opens_of_startsWith {o l : String} (h : l.startsWith o = true) : Opens o l := by
  rw [Opens, String.toList_append]
  exact (String.startsWith_string_iff.mp h).trans (List.prefix_append ..)

theorem opens_append (o t : String) : Opens o (o ++ t) :=
  opens_of_startsWith (startsWith_append o t)

/-- No line starts with two texts that are apart. -/
theorem Opens.not_startsWith {o start l : String} (ho : Opens o l) (h : Apart o start) :
    l.startsWith start = false := by
  rw [Bool.eq_false_iff]
  intro hl
  have hstart : Opens start l := opens_of_startsWith hl
  rcases List.prefix_or_prefix_of_prefix ho hstart with hprefix | hprefix
  · exact h.1 hprefix
  · exact h.2 hprefix

namespace Opened

theorem nil (os : List String) : Opened os [] := fun _ hl => absurd hl List.not_mem_nil

theorem cons {o l : String} {os ls : List String} (hl : Opens o l) (h : Opened os ls) :
    Opened (o :: os) (l :: ls) := by
  intro l' hl'
  rcases List.mem_cons.mp hl' with rfl | hl'
  · exact ⟨o, by simp, hl⟩
  · obtain ⟨o', ho', hopens⟩ := h l' hl'
    exact ⟨o', by simp [ho'], hopens⟩

theorem append {os os' ls ls' : List String} (h : Opened os ls) (h' : Opened os' ls') :
    Opened (os ++ os') (ls ++ ls') := by
  intro l hl
  rcases List.mem_append.mp hl with hl | hl
  · obtain ⟨o, ho, hopens⟩ := h l hl
    exact ⟨o, by simp [ho], hopens⟩
  · obtain ⟨o, ho, hopens⟩ := h' l hl
    exact ⟨o, by simp [ho], hopens⟩

theorem map {α : Type} {o : String} {f : α → String} (h : ∀ x, Opens o (f x)) (xs : List α) :
    Opened [o] (xs.map f) := by
  intro l hl
  obtain ⟨x, -, rfl⟩ := List.mem_map.mp hl
  exact ⟨o, by simp, h x⟩

theorem flatMap {α : Type} {os : List String} {f : α → List String} (h : ∀ x, Opened os (f x))
    (xs : List α) : Opened os (xs.flatMap f) := by
  intro l hl
  obtain ⟨x, -, hl⟩ := List.mem_flatMap.mp hl
  exact h x l hl

/-- A property that no line with one of the openings has selects none of the lines. -/
theorem filter_eq_nil {os ls : List String} {q : String → Bool} (h : Opened os ls)
    (hq : ∀ o ∈ os, ∀ l, Opens o l → q l = false) : ls.filter q = [] := by
  rw [List.filter_eq_nil_iff]
  intro l hl
  obtain ⟨o, ho, hopens⟩ := h l hl
  simp [hq o ho l hopens]

end Opened

/-! ### Lines that start with a text -/

/-- The lines that start with a text. -/
def starting (start : String) (ls : List String) : List String := ls.filter (·.startsWith start)

@[simp] theorem starting_append (start : String) (a b : List String) :
    starting start (a ++ b) = starting start a ++ starting start b := List.filter_append ..

theorem starting_cons {start l : String} (h : l.startsWith start = true) (ls : List String) :
    starting start (l :: ls) = l :: starting start ls := List.filter_cons_of_pos h

theorem starting_flatMap {α : Type} {start : String} {f : α → List String} {g : α → String}
    (h : ∀ x, starting start (f x) = [g x]) (xs : List α) :
    starting start (xs.flatMap f) = xs.map g := by
  induction xs with
  | nil => rfl
  | cons x xs ih =>
    rw [List.flatMap_cons, starting_append, h, ih, List.map_cons, List.singleton_append]

theorem starting_map {α : Type} {start : String} {f : α → String}
    (h : ∀ x, (f x).startsWith start = true) (xs : List α) : starting start (xs.map f) = xs.map f :=
  List.filter_eq_self.mpr (List.forall_mem_map.mpr fun x _ => h x)

/-- Lines whose openings are apart from a text do not start with it. -/
theorem Opened.starting_eq_nil {os ls : List String} {start : String} (h : Opened os ls)
    (hapart : ∀ o ∈ os, Apart o start) : starting start ls = [] :=
  h.filter_eq_nil fun o ho _ hopens => hopens.not_startsWith (hapart o ho)

/-- A line between lines whose openings are apart from its own is found alone. -/
theorem starting_between {os os' before after : List String} {start l : String}
    (hl : l.startsWith start = true) (hbefore : Opened os before) (hafter : Opened os' after)
    (hapart : ∀ o ∈ os ++ os', Apart o start) : starting start (before ++ l :: after) = [l] := by
  obtain ⟨hos, hos'⟩ := List.forall_mem_append.mp hapart
  rw [starting_append, hbefore.starting_eq_nil hos, starting_cons hl, hafter.starting_eq_nil hos',
    List.nil_append]

/-- An empty line starts with no text that is apart from a line feed. -/
theorem starting_blank {start : String} (h : Apart "\n" start) : starting start [""] = [] := by
  have hblank : Opened ["\n"] [""] := by decide
  exact hblank.starting_eq_nil (by simpa using h)

/-- A line that is found as the only one of its start stands there once. -/
theorem count_of_starting {start l : String} {ls : List String} (hl : l.startsWith start = true)
    (h : starting start ls = [l]) : ls.count l = 1 := by
  have hcount : (starting start ls).count l = ls.count l := List.count_filter hl
  rw [← hcount, h, List.count_singleton_self]

/-! ### Lines that close a heredoc -/

/-- A text without the spaces around it. -/
def trimSpaces (s : String) : String :=
  String.ofList ((s.toList.dropWhile (· = ' ')).reverse.dropWhile (· = ' ')).reverse

/-- Nothing but the word `EOS` and spaces is on the line. -/
def closes (l : String) : Bool := trimSpaces l = "EOS"

theorem mem_dropWhile_or {p : Char → Bool} {c : Char} {cs : List Char} (hc : c ∈ cs) :
    p c = true ∨ c ∈ cs.dropWhile p := by
  induction cs with
  | nil => exact absurd hc List.not_mem_nil
  | cons d cs ih =>
    rw [List.dropWhile_cons]
    split
    · rename_i hd
      rcases List.mem_cons.mp hc with rfl | hc
      · exact .inl hd
      · exact ih hc
    · exact .inr hc

/-- Trimming takes nothing but spaces. -/
theorem mem_trimSpaces_or {c : Char} {s : String} (hc : c ∈ s.toList) :
    c = ' ' ∨ c ∈ (trimSpaces s).toList := by
  rw [trimSpaces, String.toList_ofList, List.mem_reverse]
  -- The spaces at the front are dropped first, those at the end from the reversed rest.
  rcases mem_dropWhile_or (p := (· = ' ')) hc with hspace | hc
  · exact .inl (by simpa using hspace)
  · rcases mem_dropWhile_or (p := (· = ' ')) (List.mem_reverse.mpr hc) with hspace | hc
    · exact .inl (by simpa using hspace)
    · exact .inr hc

/-- A line with a character of its own does not close a heredoc. -/
theorem not_closes_of_mem {c : Char} {l : String} (hc : c ∈ l.toList) (hother : c ∉ " EOS".toList) :
    closes l = false := by
  rw [Bool.eq_false_iff]
  intro hcloses
  have htrim : trimSpaces l = "EOS" := by simpa [closes] using hcloses
  rcases mem_trimSpaces_or hc with rfl | hc
  · exact hother (by decide)
  · rw [htrim] at hc
    exact hother (List.mem_cons_of_mem ' ' hc)

/-- An opening that no closing line has: it ends an empty line, or has a character of its own. -/
def Foreign (o : String) : Prop := o = "\n" ∨ ∃ c ∈ o.toList, c ∉ "\n EOS".toList

-- The characters of the text are tried: there is an instance that tries all characters instead.
instance (o : String) : Decidable (Foreign o) := @instDecidableOr _ _ _ (List.decidableBEx _ _)

theorem Opens.not_closes {o l : String} (ho : Opens o l) (h : Foreign o) : closes l = false := by
  have hmem : ∀ c ∈ o.toList, c ∈ l.toList ∨ c = '\n' := by
    intro c hc
    have hline := ho.subset hc
    rw [String.toList_append] at hline
    rcases List.mem_append.mp hline with hline | hfeed
    · exact .inl hline
    · exact .inr (List.mem_singleton.mp hfeed)
  rcases h with rfl | ⟨c, hc, hother⟩
  · by_cases hl : l = ""
    · rw [hl]
      decide
    · -- The line is not empty, so that the line feed is its own first character.
      obtain ⟨c, cs, hcs⟩ := List.exists_cons_of_ne_nil (mt String.toList_eq_nil_iff.mp hl)
      rw [Opens, String.toList_append, hcs, List.cons_append] at ho
      have hfeed : '\n' ∈ l.toList := by
        rw [hcs, ← (List.cons_prefix_cons.mp ho).1]
        exact List.mem_cons_self
      exact not_closes_of_mem hfeed (by decide)
  · rcases hmem c hc with hline | rfl
    · exact not_closes_of_mem hline fun hspace => hother (List.mem_cons_of_mem '\n' hspace)
    · exact absurd (by decide) hother

/-- Lines with openings that are foreign to it do not close a heredoc. -/
theorem Opened.countP_closes {os ls : List String} (h : Opened os ls)
    (hforeign : ∀ o ∈ os, Foreign o) : ls.countP closes = 0 := by
  rw [List.countP_eq_length_filter, h.filter_eq_nil fun o ho _ hopens =>
    hopens.not_closes (hforeign o ho)]
  rfl

end ReleaseArtifacts.Text
