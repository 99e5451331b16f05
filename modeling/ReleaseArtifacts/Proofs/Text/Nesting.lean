import Mathlib.Data.List.Infix
import ReleaseArtifacts.Proofs.Text.Lines

namespace ReleaseArtifacts.Text

/-!
# Nested expansions

A shell expansion is opened by `${` and closed by `}`, and there may be others inside it.  Texts are
told apart by how many expansions are open before and after them.

* `openings`, `closings` — how often a text opens an expansion, and how often it closes one.
* `Nesting d e s` — with `d` expansions open before the text, `e` are open after it.
* `nesting_append` — texts follow one another if the second one begins where the first one ends; all
  laws about single characters come from this one.
* `upToClosing` — a reader that counts openings and closing braces.
* `upToClosing_eq_some_iff` — it stops at the brace that closes what was open before the text.
* `Matched s` — the closing braces of a text are matched with openings; `matched_enclosed` makes
  such texts from others.
-/

variable {d e f : Nat} {c : Char} {s t : List Char}

/-! ### Openings and closing braces -/

/-- How often a text opens an expansion: by a dollar sign with a brace right after it. -/
def openings : List Char → Nat
  | '$' :: '{' :: s => openings s + 1
  | _ :: s => openings s
  | [] => 0

/-- How often a text closes an expansion. -/
def closings (s : List Char) : Nat := s.count '}'

/-- No expansion is opened across the end of `s`, by its last character and the first one of `t`. -/
def Parted (s t : List Char) : Prop := ['$'] <:+ s → ¬ ['{'] <+: t

theorem Parted.tail (h : Parted (c :: s) t) : Parted s t :=
  fun hdollar => h (hdollar.trans (List.suffix_cons c s))

theorem Parted.mono (h : Parted s t) {q : List Char} (hq : q <+: t) : Parted s q :=
  fun hdollar hbrace => h hdollar (hbrace.trans hq)

theorem parted_of_ne (hc : c ≠ '{') : Parted s (c :: t) := by
  intro _ hbrace
  exact hc (by simpa [List.cons_prefix_cons, eq_comm] using hbrace)

theorem parted_of_notMem (h : '$' ∉ s) : Parted s t :=
  fun hdollar => absurd (hdollar.subset (List.mem_singleton_self '$')) h

/-- A character is parted from what follows it unless the two of them open an expansion. -/
theorem parted_singleton : Parted [c] s ↔ ∀ u, c = '$' → s = '{' :: u → False := by
  have hc : ['$'] <:+ [c] ↔ c = '$' := by simp [List.suffix_cons_iff, eq_comm]
  have hs : ['{'] <+: s ↔ ∃ u, s = '{' :: u := by
    cases s <;> simp [List.cons_prefix_cons, eq_comm]
  rw [Parted, hc, hs]
  exact ⟨fun h u hdollar hbrace => h hdollar ⟨u, hbrace⟩,
    fun h hdollar ⟨u, hbrace⟩ => h u hdollar hbrace⟩

theorem parted_append (h : Parted [c] s) (h' : Parted (c :: s) t) : Parted [c] (s ++ t) := by
  cases s with
  | nil => exact h'
  | cons a s =>
    intro hdollar hbrace
    have ha : a = '{' := by simpa [List.cons_prefix_cons, eq_comm] using hbrace
    exact h hdollar (by rw [ha]; exact List.prefix_append ['{'] s)

theorem openings_cons (h : Parted [c] s) : openings (c :: s) = openings s := by
  rw [openings]
  exact parted_singleton.mp h

theorem openings_append (h : Parted s t) : openings (s ++ t) = openings s + openings t := by
  fun_induction openings s with
  | case1 s ih =>
    rw [List.cons_append, List.cons_append, openings, ih h.tail.tail]
    omega
  | case2 c s hc ih =>
    rw [List.cons_append, openings_cons (parted_append (parted_singleton.mpr hc) h), ih h.tail]
  | case3 => rw [List.nil_append, Nat.zero_add]

theorem openings_of_notMem (h : '$' ∉ s) : openings s = 0 := by
  induction s with
  | nil => rfl
  | cons c s ih =>
    obtain ⟨hc, hs⟩ := not_or.mp (mt List.mem_cons.mpr h)
    have hparted : Parted [c] s := parted_of_notMem (by simpa using hc)
    rw [openings_cons hparted, ih hs]

theorem closings_append (s t : List Char) : closings (s ++ t) = closings s + closings t :=
  List.count_append

/-! ### Depths -/

/-- With `d` expansions open before the text, `e` are open after it, and no brace in it closes more
    than is open. -/
structure Nesting (d e : Nat) (s : List Char) : Prop where
  closings_le : ∀ p, p <+: s → closings p ≤ d + openings p
  total : d + openings s = e + closings s

instance : Decidable (Nesting d e s) :=
  decidable_of_iff ((∀ p ∈ s.inits, closings p ≤ d + openings p) ∧ d + openings s = e + closings s)
    ⟨fun h => ⟨fun p hp => h.1 p ((List.mem_inits p s).mpr hp), h.2⟩,
      fun h => ⟨fun p hp => h.closings_le p ((List.mem_inits p s).mp hp), h.total⟩⟩

/-- **Texts one after the other.**  The second one begins at the depth where the first one ends. -/
theorem nesting_append (h : Parted s t) :
    Nesting d f (s ++ t) ↔ ∃ e, Nesting d e s ∧ Nesting e f t := by
  constructor
  · intro hst
    have hall := hst.total
    have hs := hst.closings_le s (List.prefix_append s t)
    rw [openings_append h, closings_append] at hall
    -- Between the two texts there are as many open as the first one leaves open.
    refine ⟨d + openings s - closings s, ⟨?_, by omega⟩, ⟨?_, by omega⟩⟩
    · exact fun p hp => hst.closings_le p (hp.trans (List.prefix_append s t))
    · intro q hq
      have hle := hst.closings_le (s ++ q) ((List.prefix_append_right_inj s).mpr hq)
      rw [openings_append (h.mono hq), closings_append] at hle
      omega
  · rintro ⟨e, hs, ht⟩
    have hstotal := hs.total
    have httotal := ht.total
    refine ⟨fun p hp => ?_, by rw [openings_append h, closings_append]; omega⟩
    rcases List.prefix_or_prefix_of_prefix hp (List.prefix_append s t) with hp | ⟨q, rfl⟩
    · exact hs.closings_le p hp
    · have hq : q <+: t := (List.prefix_append_right_inj s).mp hp
      have hle := ht.closings_le q hq
      rw [openings_append (h.mono hq), closings_append]
      omega

/-- Without closing braces every opening adds to the depth. -/
theorem nesting_of_notMem (h : '}' ∉ s) : Nesting d e s ↔ e = d + openings s := by
  have hnone {p : List Char} (hp : p <+: s) : closings p = 0 :=
    List.count_eq_zero.mpr fun hmem => h (hp.subset hmem)
  have hs : closings s = 0 := hnone (List.prefix_refl s)
  constructor
  · intro hdepth
    have htotal := hdepth.total
    omega
  · rintro rfl
    exact ⟨fun p hp => by rw [hnone hp]; omega, by omega⟩

theorem nesting_nil : Nesting d e [] ↔ e = d := nesting_of_notMem List.not_mem_nil

theorem nesting_brace : Nesting d e ['}'] ↔ d = e + 1 := by
  have hone : closings ['}'] = 1 := by decide
  have hzero : openings ['}'] = 0 := by decide
  constructor
  · intro h
    have htotal := h.total
    omega
  · rintro rfl
    refine ⟨fun p hp => ?_, by omega⟩
    have hle : closings p ≤ closings ['}'] := hp.sublist.count_le '}'
    omega

/-- After a text without closing braces the depth is greater by its openings. -/
theorem nesting_append_of_notMem (hbrace : '}' ∉ s) (h : Parted s t) :
    Nesting d e (s ++ t) ↔ Nesting (d + openings s) e t := by
  rw [nesting_append h]
  simp only [nesting_of_notMem hbrace, exists_eq_left]

/-- Text that neither opens nor closes an expansion leaves the depth as it is. -/
theorem nesting_plain_append (hdollar : '$' ∉ s) (hbrace : '}' ∉ s) :
    Nesting d e (s ++ t) ↔ Nesting d e t := by
  rw [nesting_append_of_notMem hbrace (parted_of_notMem hdollar), openings_of_notMem hdollar,
    Nat.add_zero]

theorem nesting_opening : Nesting d e ('$' :: '{' :: s) ↔ Nesting (d + 1) e s := by
  have hparted : Parted ['$', '{'] s := fun hdollar => absurd hdollar (by decide)
  have hone : openings ['$', '{'] = 1 := by decide
  have happend : Nesting d e (['$', '{'] ++ s) ↔ Nesting (d + openings ['$', '{']) e s :=
    nesting_append_of_notMem (by decide) hparted
  rwa [hone] at happend

theorem nesting_closing : Nesting d e ('}' :: s) ↔ ∃ k, d = k + 1 ∧ Nesting k e s := by
  rw [← List.singleton_append, nesting_append (parted_of_notMem (by decide))]
  simp only [nesting_brace]

/-- So does any other character, and a dollar sign before anything but a brace. -/
theorem nesting_cons (hc : c ≠ '}') (h : Parted [c] s) : Nesting d e (c :: s) ↔ Nesting d e s := by
  have hbrace : '}' ∉ [c] := by simpa using hc.symm
  have hnone : openings [c] = 0 := openings_cons fun _ => by decide
  rw [← List.singleton_append, nesting_append_of_notMem hbrace h, hnone, Nat.add_zero]

/-- A text may stand inside other expansions. -/
theorem Nesting.deeper (h : Nesting d e s) (k : Nat) : Nesting (d + k) (e + k) s := by
  refine ⟨fun p hp => ?_, ?_⟩
  · have hle := h.closings_le p hp
    omega
  · have htotal := h.total
    omega

/-! ### The matching brace -/

/-- Reads a text with `depth` expansions open before it, and one more around them: what stands
    before the brace that closes this one, and what follows the brace. -/
def upToClosing : (depth : Nat) → (text : List Char) → Option (List Char × List Char)
  | _, [] => none
  | depth, '$' :: '{' :: s => (upToClosing (depth + 1) s).map fun r => ('$' :: '{' :: r.1, r.2)
  | 0, '}' :: s => some ([], s)
  | depth + 1, '}' :: s => (upToClosing depth s).map fun r => ('}' :: r.1, r.2)
  | depth, c :: s => (upToClosing depth s).map fun r => (c :: r.1, r.2)

theorem upToClosing_cons (hc : c ≠ '}') (h : Parted [c] s) :
    upToClosing d (c :: s) = (upToClosing d s).map fun r => (c :: r.1, r.2) := by
  rw [upToClosing]
  · exact parted_singleton.mp h
  · exact fun _ => hc
  · exact fun _ _ => hc

/-- A text that closes all that is open before it is read up to the next brace. -/
theorem upToClosing_append (h : Nesting d 0 s) (t : List Char) :
    upToClosing d (s ++ '}' :: t) = some (s, t) := by
  -- On the characters before the brace, those of an opening together; the depth is general, since
  -- it is another one after each opening and each brace.
  fun_induction openings s generalizing d with
  | case1 s ih =>
    rw [List.cons_append, List.cons_append, upToClosing, ih (nesting_opening.mp h)]
    rfl
  | case2 c s hc ih =>
    have hparted : Parted [c] s := parted_singleton.mpr hc
    by_cases hbrace : c = '}'
    · rw [hbrace] at h ⊢
      obtain ⟨k, rfl, hs⟩ := nesting_closing.mp h
      rw [List.cons_append, upToClosing, ih hs]
      rfl
    · -- The last character may be a dollar sign: what follows it closes and does not open.
      have hrest : Parted [c] (s ++ '}' :: t) := parted_append hparted (parted_of_ne (by decide))
      rw [List.cons_append, upToClosing_cons hbrace hrest, ih ((nesting_cons hbrace hparted).mp h)]
      rfl
  | case3 =>
    rw [← nesting_nil.mp h]
    rfl

/-- What is read closes all that is open before it, and a brace follows. -/
theorem eq_of_upToClosing {text : List Char} (h : upToClosing d text = some (s, t)) :
    text = s ++ '}' :: t ∧ Nesting d 0 s := by
  -- On the reader's own cases: each step puts its characters back in front.
  fun_induction upToClosing d text generalizing s with
  | case1 => cases h
  | case2 d text ih =>
    obtain ⟨⟨s, t⟩, hread, heq⟩ := Option.map_eq_some_iff.mp h
    cases heq
    obtain ⟨rfl, hs⟩ := ih hread
    exact ⟨rfl, nesting_opening.mpr hs⟩
  | case3 text =>
    cases h
    exact ⟨rfl, nesting_nil.mpr rfl⟩
  | case4 d text ih =>
    obtain ⟨⟨s, t⟩, hread, heq⟩ := Option.map_eq_some_iff.mp h
    cases heq
    obtain ⟨rfl, hs⟩ := ih hread
    exact ⟨rfl, nesting_closing.mpr ⟨d, rfl, hs⟩⟩
  | case5 d c text hopen hzero hsucc ih =>
    obtain ⟨⟨s, t⟩, hread, heq⟩ := Option.map_eq_some_iff.mp h
    cases heq
    obtain ⟨rfl, hs⟩ := ih hread
    have hbrace : c ≠ '}' := by
      cases d with
      | zero => exact hzero rfl
      | succ d => exact hsucc d rfl
    have hparted : Parted [c] s := (parted_singleton.mpr hopen).mono (List.prefix_append s _)
    exact ⟨rfl, (nesting_cons hbrace hparted).mpr hs⟩

/-- **The matching brace.**  The reader stops at the brace before which the text closes all that was
    open, and there is only one such place. -/
theorem upToClosing_eq_some_iff {text : List Char} :
    upToClosing d text = some (s, t) ↔ text = s ++ '}' :: t ∧ Nesting d 0 s := by
  constructor
  · exact eq_of_upToClosing
  · rintro ⟨rfl, h⟩
    exact upToClosing_append h t

/-! ### Matched texts -/

/-- The closing braces of a text are matched one to one with openings before them: there are as many
    of both, and from the start of the text up to any place no more are closed than opened. -/
def Matched (s : String) : Prop := Nesting 0 0 s.toList

instance (s : String) : Decidable (Matched s) := inferInstanceAs (Decidable (Nesting 0 0 s.toList))

theorem matched_empty : Matched "" := nesting_nil.mpr rfl

theorem matched_plain_append {a b : String} (hdollar : Lacks '$' a) (hbrace : Lacks '}' a) :
    Matched (a ++ b) ↔ Matched b := by
  rw [Matched, String.toList_append, nesting_plain_append hdollar hbrace]
  rfl

/-- **Expansions may stand anywhere:** a matched text between the braces of an expansion, which
    stands between matched texts, makes a matched text. -/
theorem matched_enclosed {before inside after : String} (hbefore : Matched before)
    (hinside : Matched inside) (hafter : Matched after) :
    Matched (before ++ ("$\x7b" ++ inside ++ "\x7d") ++ after) := by
  have hchars : (before ++ ("$\x7b" ++ inside ++ "\x7d") ++ after).toList =
      before.toList ++ '$' :: '{' :: (inside.toList ++ '}' :: after.toList) := by
    simp [String.toList_append]
  have hclosing : Nesting 1 0 ('}' :: after.toList) := nesting_closing.mpr ⟨0, rfl, hafter⟩
  have hopening : Nesting 0 0 ('$' :: '{' :: (inside.toList ++ '}' :: after.toList)) := by
    rw [nesting_opening, nesting_append (parted_of_ne (by decide))]
    exact ⟨1, hinside.deeper 1, hclosing⟩
  rw [Matched, hchars, nesting_append (parted_of_ne (by decide))]
  exact ⟨0, hbefore, hopening⟩

end ReleaseArtifacts.Text
