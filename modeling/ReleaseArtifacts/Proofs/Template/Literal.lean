import ReleaseArtifacts.Proofs.Template.Printing
import Mathlib.Data.List.Induction

namespace ReleaseArtifacts.Template

/-!
# Literal text between output tags

A template in which all tags are output tags prints its literal text as it stands.

* `Inert s` — no tag opens in the text `s`.
* `OutputTag` — the text of an output tag, with the expression that is read from it on any line.
* `Scanner.run_literal` — the scanner keeps inert text; `Mode.ofText` is its mode after some text,
  and the invariant of the induction.
* `parse_segments` — the statements of literal text with output tags between.
* `Prints.segments` — they print the literal text with the values of the tags between.
-/

/-! ### Inert text -/

/-- The characters that open a tag when they stand after a brace. -/
def tagMarks : List Char := ['{', '%', '#']

/-- A text in which no tag opens. -/
def Inert (s : List Char) : Prop := ∀ c ∈ tagMarks, ¬ ['{', c] <:+: s

/-- A text that does not end in the brace that opens a tag. -/
def EndsClear (s : List Char) : Prop := s.getLast? ≠ some '{'

/-- A brace opens a tag with the character right after it. -/
theorem inert_cons {c : Char} {s : List Char} :
    Inert (c :: s) ↔ (c = '{' → ∀ d ∈ s.head?, d ∉ tagMarks) ∧ Inert s := by
  have hpair : ∀ d, ['{', d] <+: c :: s ↔ c = '{' ∧ s.head? = some d := by
    intro d
    rw [List.cons_prefix_cons, eq_comm]
    cases s with
    | nil => simp
    | cons e s => simp [eq_comm]
  simp only [Inert, List.infix_cons_iff, hpair, not_or, not_and, Option.mem_def]
  constructor
  · intro h
    exact ⟨fun hc d hd hmark => (h d hmark).1 hc hd, fun d hmark => (h d hmark).2⟩
  · rintro ⟨hfirst, hrest⟩ d hmark
    exact ⟨fun hc hd => hfirst hc d hd hmark, hrest d hmark⟩

/-- The text is gone through once; trying every place of a pair takes too long to be evaluated. -/
instance decidableInert : (s : List Char) → Decidable (Inert s)
  | [] => isTrue (by simp [Inert])
  | _ :: s =>
    have := decidableInert s
    -- By the head itself: there is also an instance that tries all characters.
    have : Decidable (∀ d ∈ s.head?, d ∉ tagMarks) := Option.decidableForallMem _
    decidable_of_iff _ inert_cons.symm

instance (s : List Char) : Decidable (EndsClear s) := inferInstanceAs (Decidable (_ ≠ _))

/-- Without braces no tag opens. -/
theorem inert_of_notMem {s : List Char} (h : '{' ∉ s) : Inert s :=
  fun _ _ hpair => h (hpair.subset (by simp))

/-- No tag opens across two texts if the first one does not end in a brace. -/
theorem Inert.append {s t : List Char} (hs : Inert s) (hends : EndsClear s) (ht : Inert t) :
    Inert (s ++ t) := by
  induction s with
  | nil => exact ht
  | cons c s ih =>
    obtain ⟨hfirst, hrest⟩ := inert_cons.mp hs
    rw [List.cons_append, inert_cons]
    cases s with
    | nil =>
      have hc : c ≠ '{' := by simpa [EndsClear] using hends
      exact ⟨fun h => absurd h hc, ht⟩
    | cons d s => exact ⟨hfirst, ih hrest (by simpa [EndsClear] using hends)⟩

/-- Where the scanner is after literal text, which is given in reverse. -/
def Mode.ofText : List Char → Mode
  | '{' :: s => .brace s
  | s => .text s

theorem Mode.ofText_of_ne {c : Char} (hc : c ≠ '{') (s : List Char) :
    ofText (c :: s) = .text (c :: s) := by
  unfold ofText
  split
  · rename_i h
    cases h
    exact absurd rfl hc
  · rfl

theorem Mode.ofText_of_endsClear {s : List Char} (h : EndsClear s) :
    ofText s.reverse = .text s.reverse := by
  rcases hs : s.reverse with _ | ⟨c, t⟩
  · rfl
  · refine ofText_of_ne ?_ t
    rintro rfl
    rw [EndsClear, ← List.head?_reverse, hs] at h
    exact h rfl

/-- One more character of literal text.  After a brace it is not one that opens a tag. -/
theorem Mode.next_ofText {line : Nat} {c : Char} {s : List Char}
    (h : s.head? = some '{' → c ∉ tagMarks) :
    (ofText s).next line c = (ofText (c :: s), none) := by
  by_cases hs : s.head? = some '{'
  · obtain ⟨t, rfl⟩ : ∃ t, s = '{' :: t := by
      cases s with
      | nil => simp at hs
      | cons d t => exact ⟨t, by simpa using hs⟩
    have hc : c ≠ '{' ∧ c ≠ '%' ∧ c ≠ '#' := by simpa [tagMarks] using h hs
    rw [ofText_of_ne hc.1]
    simp only [ofText, Mode.next]
    split
    · exact absurd rfl hc.1
    · exact absurd rfl hc.2.1
    · exact absurd rfl hc.2.2
    · rfl
  · have hmode : ofText s = .text s := by
      cases s with
      | nil => rfl
      | cons d t => exact ofText_of_ne (by simpa using hs) t
    rw [hmode]
    by_cases hc : c = '{'
    · subst hc
      rfl
    · rw [ofText_of_ne hc, Mode.next, if_neg hc]

/-- **Literal text is kept.**  In a text without tags the scanner counts the lines and closes
    nothing. -/
theorem Scanner.run_literal {s : List Char} (h : Inert s) (line : Nat) (done : List Chunk) :
    run ⟨line, done, .text []⟩ s = ⟨s.foldl lineAfter line, done, .ofText s.reverse⟩ := by
  -- From the end: the mode depends on the text that has been read, and the invariant says how.
  induction s using List.reverseRecOn with
  | nil => rfl
  | append_singleton s c ih =>
    have hs : Inert s := fun d hd hsub => h d hd (hsub.trans (List.prefix_append s [c]).isInfix)
    have hnext : s.reverse.head? = some '{' → c ∉ tagMarks := by
      intro hbrace hc
      rw [List.head?_reverse] at hbrace
      obtain ⟨t, ht⟩ := List.getLast?_eq_some_iff.mp hbrace
      exact h c hc ⟨t, [], by simp [ht]⟩
    rw [run_append, ih hs, List.foldl_append, List.reverse_append]
    show step _ c = _
    rw [step, Mode.next_ofText hnext]
    rfl

/-- The line after some text: its line feeds are counted, up to the last line there is. -/
theorem foldl_lineAfter (s : List Char) {line : Nat} (hline : line ≤ lastLine) :
    s.foldl lineAfter line = min (line + s.count '\n') lastLine := by
  induction s generalizing line with
  | nil => exact (Nat.min_eq_left hline).symm
  | cons c s ih =>
    by_cases hc : c = '\n'
    · subst hc
      have hnext : lineAfter line '\n' = min (line + 1) lastLine := if_pos rfl
      rw [List.foldl_cons, hnext, ih (Nat.min_le_right ..), List.count_cons_self]
      omega
    · have hnext : lineAfter line c = line := if_neg hc
      rw [List.foldl_cons, hnext, ih hline, List.count_cons_of_ne hc]

/-- The scanner takes the text of a tag, on every line. -/
def Scans (source : List Char) (kind : TagKind) (body : List Char) : Prop :=
  ∀ line done s, Scanner.run ⟨line, done, .text s⟩ source =
    ⟨line, (s.reverse, ⟨kind, line, .lines, .lines, body⟩) :: done, .text []⟩

/-- Literal text, and a tag right after it. -/
theorem Scanner.run_tagged {s source body : List Char} {kind : TagKind} (h : Inert s)
    (hends : EndsClear s) (htag : Scans source kind body) (line : Nat) (done : List Chunk) :
    run ⟨line, done, .text []⟩ (s ++ source) =
      ⟨s.foldl lineAfter line,
        (s, ⟨kind, s.foldl lineAfter line, .lines, .lines, body⟩) :: done, .text []⟩ := by
  rw [run_append, run_literal h, Mode.ofText_of_endsClear hends, htag, List.reverse_reverse]

/-- A brace at the very end opens nothing, and is literal text as well. -/
theorem Scanner.finish_ofText (line : Nat) (done : List Chunk) (s : List Char) :
    (Scanner.mk line done (.ofText s)).finish = some ⟨done.reverse, s.reverse⟩ := by
  unfold Mode.ofText
  split <;> rfl

/-! ### Output tags -/

/-- The text of an output tag, with what stands in it and the expression that is read from it. -/
structure OutputTag where
  source : List Char
  body : List Char
  expr : Nat → Expr
  /-- the tag takes all of its text, and the line goes on after it -/
  scanned : ∀ line done s, Scanner.run ⟨line, done, .text s⟩ source =
    ⟨line, (s.reverse, ⟨.output, line, .lines, .lines, body⟩) :: done, .text []⟩
  /-- the expression is the same on every line, apart from the line itself -/
  read : ∀ line, (lexemes line body).bind Keyword.wholeExpr = some (expr line)

namespace OutputTag

/-- The tag on a line. -/
def onLine (t : OutputTag) (line : Nat) : Tag := ⟨.output, line, .lines, .lines, t.body⟩

/-- What the tag does on a line. -/
def statement (t : OutputTag) (line : Nat) : Statement := .output line (t.expr line)

end OutputTag

/-- Literal text, and an output tag right after it. -/
structure Segment where
  literal : List Char
  tag : OutputTag

namespace Segment

/-- The text of a segment. -/
def source (s : Segment) : List Char := s.literal ++ s.tag.source

/-- The line of the tag of a segment that begins on a line. -/
def tagLine (s : Segment) (line : Nat) : Nat := s.literal.foldl lineAfter line

/-- The literal text is inert, also together with the tag after it. -/
structure Clear (s : Segment) : Prop where
  inert : Inert s.literal
  ends : EndsClear s.literal

end Segment

/-- Segments that begin on a line, split into literal text and tags. -/
def chunksOf (line : Nat) : List Segment → List Chunk
  | [] => []
  | s :: rest => (s.literal, s.tag.onLine (s.tagLine line)) :: chunksOf (s.tagLine line) rest

/-- The statements of segments that begin on a line, and of the literal text after them. -/
def statementsOf (last : List Char) (line : Nat) : List Segment → List Statement
  | [] => [.text (String.ofList last)]
  | s :: rest =>
    .text (String.ofList s.literal) :: s.tag.statement (s.tagLine line) ::
      statementsOf last (s.tagLine line) rest

/-! ### Reading -/

theorem Scanner.run_segment {s : Segment} (h : s.Clear) (line : Nat) (done : List Chunk) :
    run ⟨line, done, .text []⟩ s.source =
      ⟨s.tagLine line, (s.literal, s.tag.onLine (s.tagLine line)) :: done, .text []⟩ :=
  run_tagged h.inert h.ends s.tag.scanned line done

theorem Scanner.run_segments {segments : List Segment} (h : ∀ s ∈ segments, s.Clear) (line : Nat)
    (done : List Chunk) : ∃ line', run ⟨line, done, .text []⟩ (segments.flatMap Segment.source) =
      ⟨line', (chunksOf line segments).reverse ++ done, .text []⟩ := by
  induction segments generalizing line done with
  | nil => exact ⟨line, rfl⟩
  | cons s segments ih =>
    obtain ⟨line', hrest⟩ := ih (fun s' hs' => h s' (by simp [hs'])) (s.tagLine line)
      ((s.literal, s.tag.onLine (s.tagLine line)) :: done)
    refine ⟨line', ?_⟩
    rw [List.flatMap_cons, run_append, run_segment (h s (by simp)), hrest, chunksOf,
      List.reverse_cons, List.append_assoc]
    rfl

/-- The tags of a template are found, with the text before each of them. -/
theorem scan_segments {segments : List Segment} {last : List Char}
    (hsegments : ∀ s ∈ segments, s.Clear) (hlast : Inert last) :
    Source.scan (segments.flatMap Segment.source ++ last) =
      some ⟨chunksOf 1 segments, last⟩ := by
  obtain ⟨line', hrun⟩ := Scanner.run_segments hsegments 1 []
  rw [Source.scan, Scanner.run_append, Scanner.start, hrun, Scanner.run_literal hlast,
    Scanner.finish_ofText, List.append_nil, List.reverse_reverse, List.reverse_reverse]

/-- Output tags leave the literal text beside them as it is. -/
theorem trimmed_output {previous next : Option Tag} {s : List Char}
    (hprevious : ∀ t ∈ previous, t.kind = .output ∧ t.closing = .lines)
    (hnext : ∀ t ∈ next, t.kind = .output ∧ t.opening = .lines) : trimmed previous next s = s := by
  have hbefore : ∀ t ∈ next, ∀ first, beforeTag first t s = s := by
    intro t ht first
    obtain ⟨hkind, hedge⟩ := hnext t ht
    simp only [beforeTag, hedge, hkind, if_pos]
  have hafter : ∀ t ∈ previous, afterTag t s = s := by
    intro t ht
    obtain ⟨hkind, hedge⟩ := hprevious t ht
    simp only [afterTag, hedge, hkind, if_pos]
  cases previous <;> cases next <;> simp_all [trimmed]

/-- Reading goes on after a text and an output tag. -/
theorem Builder.run_output {s : List Char} {t : OutputTag} {line : Nat} (b : Builder)
    (items : List Item) :
    b.run (.text s :: .tag (t.onLine line) :: items) =
      ((b.add (.text (String.ofList s))).add (t.statement line)).run items := by
  have htag : (b.add (.text (String.ofList s))).tag (t.onLine line) =
      some ((b.add (.text (String.ofList s))).add (t.statement line)) := by
    obtain ⟨l, hl, he⟩ := Option.bind_eq_some_iff.mp (t.read line)
    simp only [Builder.tag, OutputTag.onLine, hl, he, Option.bind_eq_bind, Option.bind_some]
    rfl
  simp only [run, List.foldlM_cons, step, htag, Option.bind_eq_bind, Option.bind_some]

theorem Builder.run_segments (last : List Char) {previous : Option Tag}
    (hprevious : ∀ t ∈ previous, t.kind = .output ∧ t.closing = .lines) (segments : List Segment)
    (line : Nat) (b : Builder) :
    b.run (itemsFrom previous last (chunksOf line segments)) =
      some { b with current := (statementsOf last line segments).reverse ++ b.current } := by
  -- On the segments: each of them adds its text and its tag to the statements before.
  induction segments generalizing line b previous with
  | nil =>
    rw [chunksOf, itemsFrom, trimmed_output hprevious (by simp)]
    rfl
  | cons s segments ih =>
    have htag : ∀ t ∈ some (s.tag.onLine (s.tagLine line)),
        t.kind = .output ∧ t.closing = .lines := by
      simp [OutputTag.onLine]
    have hnext : ∀ t ∈ some (s.tag.onLine (s.tagLine line)),
        t.kind = .output ∧ t.opening = .lines := by
      simp [OutputTag.onLine]
    rw [chunksOf, itemsFrom, trimmed_output hprevious hnext, run_output, ih htag, statementsOf]
    simp [Builder.add]

/-- **Reading literal text with output tags** gives a statement for each text and each tag. -/
theorem parse_segments {source : String} {segments : List Segment} {last : List Char}
    (hsource : source.toList = segments.flatMap Segment.source ++ last)
    (hsegments : ∀ s ∈ segments, s.Clear) (hlast : Inert last) :
    Statement.parse source = some (statementsOf last 1 segments) := by
  have hnone : ∀ t ∈ (none : Option Tag), t.kind = .output ∧ t.closing = .lines := by simp
  have hrun := Builder.run_segments last hnone segments 1 .start
  rw [Statement.parse, hsource, scan_segments hsegments hlast]
  simp only [Option.bind_eq_bind, Option.bind_some, Source.items, hrun]
  simp [Builder.finish, Builder.start]

/-! ### Printing -/

/-- **Literal text is printed as it is,** and so are the texts that the tags stand for. -/
theorem Prints.segments {α : Type} {scope : Scope} {segment : α → Segment} {f : α → String}
    {parts : List α}
    (h : ∀ x ∈ parts, ∀ line n, ((segment x).tag.expr n).eval scope line = .ok (.text (f x)))
    (last : List Char) (line : Nat) :
    Prints scope (statementsOf last line (parts.map segment))
      (String.join (parts.map fun x => String.ofList (segment x).literal ++ f x) ++
        String.ofList last) := by
  induction parts generalizing line with
  | nil =>
    refine (Prints.text (String.ofList last) (.nil scope)).of_eq ?_
    simp
  | cons x parts ih =>
    have hrest := ih (fun y hy => h y (by simp [hy])) ((segment x).tagLine line)
    refine (Prints.labelled (String.ofList (segment x).literal) (h x (by simp) _ _) hrest).of_eq ?_
    simp only [List.map_cons, String.join_cons, String.append_assoc]

end ReleaseArtifacts.Template
