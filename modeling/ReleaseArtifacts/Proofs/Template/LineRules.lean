import ReleaseArtifacts.Template.Piece
import Mathlib.Data.List.TakeWhile

namespace ReleaseArtifacts.Template

/-!
# Text at the ends of lines

What tags take from the text beside them, for texts that end in a line feed.  No line rule looks
past a line feed, so such a text and the text after it are trimmed apart from each other.

* `EndsLine s` — the text `s` ends in a line feed.
* `dropIndent_append`, `dropLineEnd_append` — the two line rules on such a text and another one.
* `trimmed_append` — the same for the rules of both tags beside a text, none of them with a mark
  that strips.
-/

/-- A text that ends in a line feed. -/
def EndsLine (s : List Char) : Prop := s.getLast? = some '\n'

instance (s : List Char) : Decidable (EndsLine s) := inferInstanceAs (Decidable (_ = _))

/-- The blanks that a block tag takes from the line it is on. -/
def isIndent (c : Char) : Bool := Text.isBlank c && !isLineEnd c

variable {first : Bool} {previous next : Option Tag} {u v : List Char}

theorem EndsLine.exists_append (h : EndsLine u) : ∃ t, u = t ++ ['\n'] :=
  List.getLast?_eq_some_iff.mp h

theorem EndsLine.exists_cons (h : EndsLine u) : ∃ t, u.reverse = '\n' :: t := by
  obtain ⟨t, rfl⟩ := h.exists_append
  exact ⟨t.reverse, by simp⟩

/-! ### Blanks before a tag -/

theorem dropIndent_eq (first : Bool) (s : List Char) :
    dropIndent first s =
      match s.reverse.dropWhile isIndent with
      | [] => if first then [] else s
      | c :: kept => if isLineEnd c then (c :: kept).reverse else s := by
  have hindent : (fun c => Text.isBlank c && !isLineEnd c) = isIndent := rfl
  unfold dropIndent
  rw [hindent]
  cases s.reverse.dropWhile isIndent <;> rfl

/-- Blanks at the start of a template are dropped. -/
theorem dropIndent_of_indent (h : ∀ c ∈ v, isIndent c) : dropIndent true v = [] := by
  have hall : v.reverse.dropWhile isIndent = [] := by
    rw [List.dropWhile_eq_nil_iff]
    simpa using h
  simp only [dropIndent_eq, hall, if_pos]

/-- **Blanks are dropped up to the line feed before them,** whatever stands before it. -/
theorem dropIndent_append (h : EndsLine u) (first : Bool) (v : List Char) :
    dropIndent first (u ++ v) = u ++ dropIndent true v := by
  obtain ⟨t, ht⟩ := h.exists_cons
  have hline : isIndent '\n' = false := by decide
  rw [dropIndent_eq, dropIndent_eq, List.reverse_append, List.dropWhile_append]
  cases hv : v.reverse.dropWhile isIndent with
  | nil =>
    -- The second text is all blanks: what is kept begins at the line feed.
    have hkept : u.reverse.dropWhile isIndent = '\n' :: t := by
      rw [ht, List.dropWhile_cons_of_neg (by simp [hline])]
    have hu : u = ('\n' :: t).reverse := by rw [← ht, List.reverse_reverse]
    simp only [List.isEmpty_nil, if_pos, hkept, List.append_nil]
    rw [if_pos (by decide), hu]
  | cons c kept =>
    simp only [List.isEmpty_cons, Bool.false_eq_true, if_false, List.cons_append]
    split
    · simp
    · rfl

/-- The indentation of a tag is dropped, and the lines before it stay. -/
theorem dropIndent_append_indent (hu : u = [] ∨ EndsLine u) (hv : ∀ c ∈ v, isIndent c) :
    dropIndent true (u ++ v) = u := by
  obtain rfl | h := hu
  · exact dropIndent_of_indent hv
  · rw [dropIndent_append h, dropIndent_of_indent hv, List.append_nil]

/-! ### The line end after a tag -/

/-- The line end at the front of a text stands before the end of its first line. -/
theorem dropLineEnd_append (h : EndsLine u) (v : List Char) :
    dropLineEnd (u ++ v) = dropLineEnd u ++ v := by
  match u with
  | [] => cases h
  | [c] =>
    obtain rfl : c = '\n' := by simpa [EndsLine] using h
    rfl
  | c :: d :: u =>
    by_cases hc : c = '\n'
    · subst hc
      rfl
    · by_cases hd : c = '\r' ∧ d = '\n'
      · obtain ⟨rfl, rfl⟩ := hd
        rfl
      · have hkept : ∀ s : List Char, dropLineEnd (c :: d :: s) = c :: d :: s := by
          intro s
          unfold dropLineEnd
          split <;> simp_all
        rw [List.cons_append, List.cons_append, hkept, hkept, List.cons_append, List.cons_append]

/-! ### Both tags -/

/-- A tag without a mark that strips. -/
structure Tag.Unmarked (t : Tag) : Prop where
  opening : t.opening ≠ .strip
  closing : t.closing ≠ .strip

instance (t : Tag) : Decidable t.Unmarked :=
  decidable_of_iff (t.opening ≠ .strip ∧ t.closing ≠ .strip)
    ⟨fun h => ⟨h.1, h.2⟩, fun h => ⟨h.opening, h.closing⟩⟩

theorem beforeTag_append {t : Tag} (ht : t.Unmarked) (h : EndsLine u) (first : Bool)
    (v : List Char) : beforeTag first t (u ++ v) = u ++ beforeTag true t v := by
  unfold beforeTag
  split
  · exact absurd ‹_› ht.opening
  · rfl
  · split
    · rfl
    · exact dropIndent_append h first v

theorem afterTag_append {t : Tag} (ht : t.Unmarked) (h : EndsLine u) (v : List Char) :
    afterTag t (u ++ v) = afterTag t u ++ v := by
  unfold afterTag
  split
  · exact absurd ‹_› ht.closing
  · rfl
  · split
    · rfl
    · exact dropLineEnd_append h v

/-- **No rule looks across a line feed.**  The tag before the line feed trims the text up to it as
    at the end of a template, and the tag after it the rest as at the start of one. -/
theorem trimmed_append (h : EndsLine u) (hprevious : ∀ t ∈ previous, t.Unmarked)
    (hnext : ∀ t ∈ next, t.Unmarked) (v : List Char) :
    trimmed previous next (u ++ v) = trimmed previous none u ++ trimmed none next v := by
  have hafter : ∀ w, trimmed previous none (u ++ w) = trimmed previous none u ++ w := by
    intro w
    cases previous with
    | none => rfl
    | some t => exact afterTag_append (hprevious t rfl) h w
  cases next with
  | none => exact hafter v
  | some t =>
    -- The tag after the text trims it first.
    have hbefore : trimmed previous (some t) (u ++ v) =
        trimmed previous none (beforeTag previous.isNone t (u ++ v)) := by cases previous <;> rfl
    rw [hbefore, beforeTag_append (hnext t rfl) h, hafter]
    rfl

end ReleaseArtifacts.Template
