import ReleaseArtifacts.Proofs.Toml.Reading

namespace ReleaseArtifacts.Toml

/-!
# What is written is read back: lines

* `entryLine`, `Section.lines`, `Layout.lines` — the lines that a layout has.
* `Layout.Writes.lines?_eq` — they are read from every text that writes the layout.
* `Layout.ofLines_lines` — sorted into sections, they are the layout again.
-/

/-! ### The lines of a layout -/

/-- An entry as an assignment to its key. -/
def entryAssignment (e : String × Value) : Assignment := ⟨[], e.1, e.2⟩

def entryLine (e : String × Value) : Line := .assignment (entryAssignment e)

/-- The header of a section. -/
def Section.header (s : Section) : Header :=
  if s.repeated then .element [] s.name else .table [] s.name

def Section.headingLine (s : Section) : Line :=
  if s.repeated then .element [] s.name else .table [] s.name

def Section.lines (s : Section) : List Line := s.headingLine :: s.entries.map entryLine

def Layout.lines (layout : Layout) : List Line :=
  layout.root.map entryLine ++ layout.sections.flatMap Section.lines

/-- The keys of all entries, and the names of the sections, need no quotes. -/
structure Section.Plain (s : Section) : Prop where
  name : Bare s.name
  keys : ∀ e ∈ s.entries, Bare e.1

structure Layout.Plain (layout : Layout) : Prop where
  root : ∀ e ∈ layout.root, Bare e.1
  sections : ∀ s ∈ layout.sections, s.Plain

/-! ### One line -/

section Lines

variable {key : String} {v : Value} {text rest : List Char}

theorem Bare.exists_cons (h : Bare key) :
    ∃ c word, key.toList = c :: word ∧ isBareKey c := by
  obtain ⟨c, word, hkey⟩ := List.exists_cons_of_ne_nil h.1
  exact ⟨c, word, hkey, h.2 c (by simp [hkey])⟩

theorem Writes.head_not_space (h : Writes v text) (rest : List Char) :
    ∀ x ∈ (text ++ rest).head?, isSpace x = false := by
  cases h with
  | string h =>
    obtain ⟨tail, rfl⟩ := h.eq_cons
    rintro _ ⟨⟩
    rfl
  | flag b => cases b <;> (rintro _ ⟨⟩; rfl)
  | strings =>
    rintro _ ⟨⟩
    rfl

/-- An assignment, without the line end. -/
theorem Bare.reads_assignment (h : Bare key) (hv : Writes v text) (rest : List Char) :
    Reads (assignment value) (key.toList ++ ' ' :: '=' :: ' ' :: (text ++ '\n' :: rest))
      (entryAssignment (key, v)) ('\n' :: rest) := by
  have hblank : ∀ c ∈ [' '], isSpace c := by simp [isSpace]
  obtain ⟨hkey, hpath⟩ := h.reads_keyPath hblank '=' rfl rfl (by decide)
    (' ' :: (text ++ '\n' :: rest))
  obtain ⟨heq, hequals⟩ := reads_exactly '=' (' ' :: (text ++ '\n' :: rest))
  obtain ⟨hspace, hspaces⟩ : ∃ k, spaces (' ' :: (text ++ '\n' :: rest)) =
      ⟨(), text ++ '\n' :: rest, k⟩ := spaces_eq hblank (hv.head_not_space _)
  obtain ⟨hlt, hvalue⟩ := hv.reads_value rest
  refine ⟨Nat.lt_trans (Nat.lt_of_lt_of_le hlt hspace) (Nat.lt_trans heq hkey), ?_⟩
  rw [assignment]
  simp only [List.singleton_append] at hpath
  rw [hpath]
  simp only [hequals, Option.bind_eq_bind, Option.bind_some]
  rw [hspaces]
  simp only [hvalue]
  rfl

/-- An entry, without the line end. -/
theorem Bare.reads_entry (h : Bare key) (hv : Writes v text) (rest : List Char) :
    Reads lineContent (key.toList ++ ' ' :: '=' :: ' ' :: (text ++ '\n' :: rest))
      (entryLine (key, v)) ('\n' :: rest) := by
  obtain ⟨hlt, hassign⟩ := h.reads_assignment hv rest
  have hcontent : lineContent (key.toList ++ ' ' :: '=' :: ' ' :: (text ++ '\n' :: rest)) =
      (assignment value (key.toList ++ ' ' :: '=' :: ' ' :: (text ++ '\n' :: rest))).map
        (·.map .assignment) := by
    obtain ⟨c, word, hkey, hc⟩ := h.exists_cons
    have hbracket : c ≠ '[' := by rintro rfl; revert hc; decide
    rw [hkey, List.cons_append, lineContent]
    · simp [hbracket]
    · simp [hbracket]
  refine ⟨hlt, ?_⟩
  rw [hcontent, hassign]
  rfl

/-- The header of a section, without the line end. -/
theorem Bare.reads_heading {s : Section} (h : Bare s.name) (rest : List Char) :
    Reads lineContent (s.heading ++ rest) s.headingLine ('\n' :: rest) := by
  have hpath (more : List Char) : Reads keyPath (s.name.toList ++ ([] ++ ']' :: more)) ([], s.name)
      (']' :: more) := h.reads_keyPath (List.forall_mem_nil _) ']' rfl rfl (by decide) more
  obtain ⟨name, repeated, entries⟩ := s
  cases repeated with
  | true =>
    have hinput : Section.heading ⟨name, true, entries⟩ ++ rest =
        '[' :: '[' :: (name.toList ++ ([] ++ ']' :: ']' :: '\n' :: rest)) := by
      simp [Section.heading]
    rw [hinput]
    obtain ⟨hlt, hpath⟩ := hpath (']' :: '\n' :: rest)
    obtain ⟨_, hfirst⟩ := reads_exactly ']' (']' :: '\n' :: rest)
    obtain ⟨_, hsecond⟩ := reads_exactly ']' ('\n' :: rest)
    refine ⟨by simp at hlt ⊢; omega, ?_⟩
    rw [lineContent]
    simp only [hpath, hfirst, hsecond, Option.bind_eq_bind, Option.bind_some]
    rfl
  | false =>
    have hinput : Section.heading ⟨name, false, entries⟩ ++ rest =
        '[' :: (name.toList ++ ([] ++ ']' :: '\n' :: rest)) := by
      simp [Section.heading]
    rw [hinput]
    obtain ⟨hlt, hpath⟩ := hpath ('\n' :: rest)
    obtain ⟨_, hfirst⟩ := reads_exactly ']' ('\n' :: rest)
    refine ⟨by simp at hlt ⊢; omega, ?_⟩
    obtain ⟨c, word, hname, hc⟩ := h.exists_cons
    have hbracket : c ≠ '[' := by rintro rfl; revert hc; decide
    -- The second bracket of a repeated section cannot be taken for the name of this one.
    rw [lineContent]
    · simp only [hpath, hfirst, Option.bind_eq_bind, Option.bind_some]
      rfl
    · simp only at hname
      simp [hname, hbracket]

/-- A line that says something is read with its end. -/
theorem contentStep_eq_next {l : Line} {input : List Char}
    (h : Reads lineContent input l ('\n' :: rest))
    (hc : ∃ c tail, input = c :: tail ∧ (isBareKey c ∨ c = '[')) (done : List Line) :
    ∃ k, contentStep done input = .next ⟨l :: done, rest, k⟩ := by
  obtain ⟨c, input, rfl, hc⟩ := hc
  obtain ⟨hlt, hcontent⟩ := h
  have hcomment : c ≠ '#' := by rintro rfl; revert hc; decide
  have hspace : isSpace c = false := by
    rcases hc with hc | rfl
    · exact isSpace_of_isBareKey hc
    · rfl
  have hend : lineEnd (c :: input) = none := by
    have hnew : c ≠ '\n' := by rintro rfl; revert hc; decide
    have hreturn : c ≠ '\r' := by rintro rfl; revert hc; decide
    simp [lineEnd, hnew, hreturn]
  have hrest : lineRest ('\n' :: rest) = some ⟨(), rest, Nat.le_succ _⟩ := rfl
  refine ⟨Nat.lt_of_succ_lt hlt, ?_⟩
  rw [contentStep]
  · simp only [hspace, hend, hcontent, hrest]
    rfl
  · simpa using hcomment

/-! ### All lines -/

theorem WritesEntries.steps {entries : Table} {done v : List Line} {rest last : List Char}
    (h : WritesEntries entries text) (hbare : ∀ e ∈ entries, Bare e.1)
    (more : Steps contentStep ((entries.map entryLine).reverse ++ done) rest v last) :
    Steps contentStep done (text ++ rest) v last := by
  -- On the entries: the lines of those that were read stand in `done`, the last of them first.
  induction h generalizing done with
  | nil => exact more
  | @cons key v entries text tail hv _ ih =>
    obtain ⟨hkey, hbare⟩ := List.forall_mem_cons.mp hbare
    have hinput : key.toList ++ ' ' :: '=' :: ' ' :: (text ++ '\n' :: tail) ++ rest =
        key.toList ++ ' ' :: '=' :: ' ' :: (text ++ '\n' :: (tail ++ rest)) := by simp
    obtain ⟨c, word, hcons, hc⟩ := hkey.exists_cons
    obtain ⟨k, hstep⟩ := contentStep_eq_next (hkey.reads_entry hv (tail ++ rest))
      ⟨c, _, by rw [hcons]; rfl, .inl hc⟩ done
    rw [hinput]
    refine .next hstep (ih hbare ?_)
    simpa using more

theorem WritesSections.steps {sections : List Section} {done : List Line}
    (h : WritesSections sections text) (hplain : ∀ s ∈ sections, s.Plain) :
    Steps contentStep done text ((sections.flatMap Section.lines).reverse ++ done) [] := by
  induction h generalizing done with
  | nil => exact .stop rfl
  | @cons s sections text more hentries _ ih =>
    obtain ⟨hs, hplain⟩ := List.forall_mem_cons.mp hplain
    have hhead : ∃ c tail, s.heading ++ (text ++ more) = c :: tail ∧ (isBareKey c ∨ c = '[') := by
      rw [Section.heading]
      split <;> exact ⟨'[', _, rfl, .inr rfl⟩
    obtain ⟨k, hstep⟩ := contentStep_eq_next (hs.name.reads_heading (text ++ more)) hhead done
    refine .next hstep (hentries.steps hs.keys ?_)
    have hlines : ((s :: sections).flatMap Section.lines).reverse ++ done =
        (sections.flatMap Section.lines).reverse ++
          ((s.entries.map entryLine).reverse ++ s.headingLine :: done) := by
      simp [Section.lines]
    rw [hlines]
    exact ih hplain

theorem WritesEntries.head_bare {entries : Table} (h : WritesEntries entries text)
    (hbare : ∀ e ∈ entries, Bare e.1) : ∀ x ∈ text.head?, isBareKey x := by
  cases h with
  | nil => simp
  | cons =>
    obtain ⟨c, word, hkey, hc⟩ := (hbare _ (List.mem_cons_self ..)).exists_cons
    simpa [hkey] using hc

theorem WritesSections.head_bracket {sections : List Section} (h : WritesSections sections text) :
    ∀ x ∈ text.head?, x = '[' := by
  cases h with
  | nil => simp
  | @cons s =>
    rw [Section.heading]
    split <;> simp

end Lines

namespace Layout

variable {layout : Layout} {text : String}

/-- **All lines of a layout are read back.** -/
theorem Writes.lines?_eq (h : layout.Writes text) (hplain : layout.Plain) :
    lines? text.toList = some layout.lines := by
  obtain @⟨root, sections, hroot, hsections, htext⟩ := h
  -- The text begins with a key or a bracket, not with a byte order mark.
  have hmark : ¬ (root ++ sections).head? = some '\ufeff' := by
    cases root with
    | nil =>
      intro hmark
      exact absurd (hsections.head_bracket _ hmark) (by decide)
    | cons c root =>
      rintro ⟨⟩
      exact absurd (hroot.head_bare hplain.root _ rfl) (by decide)
  have hsteps : Steps contentStep [] (root ++ sections) _ [] :=
    hroot.steps hplain.root (hsections.steps hplain.sections)
  obtain ⟨_, hloop⟩ := hsteps.extend
  rw [htext, lines?, if_neg hmark, hloop]
  simp [Layout.lines]

/-! ### Sections -/

/-- The lines of a layout, sorted. -/
def document (layout : Layout) : Document :=
  ⟨layout.root.map entryAssignment,
    layout.sections.map fun s => (s.header, s.entries.map entryAssignment)⟩

end Layout

theorem foldr_entryLines (entries : Table) (d : Document) :
    (entries.map entryLine).foldr Document.addLine d =
      { d with root := entries.map entryAssignment ++ d.root } := by
  induction entries with
  | nil => rfl
  | cons e entries ih => rw [List.map_cons, List.foldr_cons, ih]; rfl

theorem foldr_sectionLines (sections : List Section) :
    (sections.flatMap Section.lines).foldr Document.addLine ⟨[], []⟩ =
      ⟨[], sections.map fun s => (s.header, s.entries.map entryAssignment)⟩ := by
  induction sections with
  | nil => rfl
  | cons s sections ih =>
    have hheading : ∀ d : Document,
        Document.addLine s.headingLine d = ⟨[], (s.header, d.root) :: d.sections⟩ := by
      intro d
      rw [Section.headingLine, Section.header]
      split <;> rfl
    rw [List.flatMap_cons, List.foldr_append, ih, Section.lines, List.foldr_cons,
      foldr_entryLines, hheading]
    simp

theorem Layout.ofLines_lines (layout : Layout) :
    Document.ofLines layout.lines = layout.document := by
  rw [Document.ofLines, Layout.lines, List.foldr_append, foldr_sectionLines, foldr_entryLines,
    Layout.document]
  exact congrArg (Document.mk · _) (List.append_nil _)

/-- **Reading a text that writes a layout leaves the assembly of the layout.** -/
theorem Layout.Writes.parse_eq {layout : Layout} {text : String} (h : layout.Writes text)
    (hplain : layout.Plain) : parse text = layout.document.table? := by
  rw [parse, h.lines?_eq hplain]
  exact congrArg Document.table? layout.ofLines_lines

end ReleaseArtifacts.Toml
