import Mathlib.Data.List.Basic

namespace ReleaseArtifacts.Text

/-!
# Positions of lines

`ls.findIdxs q` are the positions of the lines with the property `q`, from the first to the last.

* `position_of_split` — before a line with the property there are as many positions as the lines
  before it count.
* `position_lt`, `position_ge` — the other positions lie before and after a place.
* `between o c ls` — the lines between two positions.
* `Block` — what the `i`-th opening line opens is closed by the `i`-th closing line, before the next
  one is opened.
* `Block.of_split` — a block stands where its lines do.
-/

variable {α : Type} {q : α → Bool} {xs ys : List α}

/-! ### The positions around a line -/

/-- **The position of a line.**  Before it there are as many positions as lines with the property
    in front of it. -/
theorem position_of_split {x : α} (h : q x = true) (xs ys : List α) :
    ((xs ++ x :: ys).findIdxs q)[xs.countP q]? = some xs.length := by
  have hcount : (xs.findIdxs q).length = xs.countP q := List.length_findIdxs
  rw [List.findIdxs_append, List.getElem?_append_right (by omega), hcount, Nat.sub_self,
    List.findIdxs_cons, if_pos h, Nat.zero_add]
  rfl

/-- The first positions lie in the first lines. -/
theorem position_lt {i n : Nat} (hi : i < xs.countP q)
    (hn : ((xs ++ ys).findIdxs q)[i]? = some n) : n < xs.length := by
  have hcount : (xs.findIdxs q).length = xs.countP q := List.length_findIdxs
  rw [List.findIdxs_append, List.getElem?_append_left (by omega)] at hn
  exact List.lt_add_of_mem_findIdxs n (List.mem_of_getElem? hn)

/-- The later positions lie in the later lines. -/
theorem position_ge {i n : Nat} (hi : xs.countP q ≤ i)
    (hn : ((xs ++ ys).findIdxs q)[i]? = some n) : xs.length ≤ n := by
  have hcount : (xs.findIdxs q).length = xs.countP q := List.length_findIdxs
  rw [List.findIdxs_append, List.getElem?_append_right (by omega)] at hn
  have hle := List.ge_of_mem_findIdxs n (List.mem_of_getElem? hn)
  omega

/-- Blocks with one line each that has a property count as many of them. -/
theorem countP_flatMap_one {β : Type} {f : β → List α} (h : ∀ b, (f b).countP q = 1)
    (bs : List β) : (bs.flatMap f).countP q = bs.length := by
  induction bs with
  | nil => rfl
  | cons b bs ih =>
    rw [List.flatMap_cons, List.countP_append, h, ih, List.length_cons, Nat.add_comm]

/-! ### Blocks -/

/-- The lines after the position `o` and before the position `c`. -/
def between (o c : Nat) (ls : List α) : List α := (ls.take c).drop (o + 1)

/-- The lines between two lines are found between their positions. -/
theorem between_split (xs body ys : List α) (x y : α) :
    between xs.length (xs.length + 1 + body.length) (xs ++ x :: (body ++ y :: ys)) = body := by
  have hsplit : xs ++ x :: (body ++ y :: ys) = ((xs ++ [x]) ++ body) ++ y :: ys := by simp
  have hfront : ((xs ++ [x]) ++ body).length = xs.length + 1 + body.length := by
    simp only [List.length_append, List.length_singleton]
  rw [between, hsplit, List.take_left' hfront, List.drop_left' (by simp)]

/-- At `o` stands the `i`-th line that opens a block, and at `c` the `i`-th one that closes a block:
    it comes after `o`, and before the next line that opens one. -/
structure Block (opens closes : α → Bool) (ls : List α) (i o c : Nat) : Prop where
  opened : (ls.findIdxs opens)[i]? = some o
  closed : (ls.findIdxs closes)[i]? = some c
  order : o < c
  next : ∀ o', (ls.findIdxs opens)[i + 1]? = some o' → c < o'

/-- **Blocks that do not overlap.**  After as many lines that open as lines that close, a line that
    opens, lines that do neither and a line that closes are a block. -/
theorem Block.of_split {opens closes : α → Bool} {i : Nat} {x y : α} {body : List α}
    (hopens : xs.countP opens = i) (hcloses : xs.countP closes = i)
    (hx : opens x = true) (hx' : closes x = false) (hy : opens y = false) (hy' : closes y = true)
    (hbody : body.countP opens = 0) (hbody' : body.countP closes = 0) :
    Block opens closes (xs ++ x :: (body ++ y :: ys)) i xs.length
      (xs.length + 1 + body.length) where
  opened := by
    rw [← hopens]
    exact position_of_split hx xs _
  closed := by
    -- Neither `x` nor the body closes anything: the count in front of `y` is that in front of `x`.
    have hsplit : xs ++ x :: (body ++ y :: ys) = (xs ++ x :: body) ++ y :: ys := by simp
    have hcount : (xs ++ x :: body).countP closes = i := by
      rw [List.countP_append, List.countP_cons_of_neg (by simp [hx']), hcloses, hbody',
        Nat.add_zero]
    have hlength : (xs ++ x :: body).length = xs.length + 1 + body.length := by
      rw [List.length_append, List.length_cons]
      omega
    rw [hsplit, ← hcount, ← hlength]
    exact position_of_split hy' _ ys
  order := by omega
  next := by
    intro o' ho'
    -- Up to `y` one line more than `i` opens a block, so that the next one lies behind `y`.
    have hsplit : xs ++ x :: (body ++ y :: ys) = (xs ++ x :: (body ++ [y])) ++ ys := by simp
    have hcount : (xs ++ x :: (body ++ [y])).countP opens = i + 1 := by
      rw [List.countP_append, List.countP_cons_of_pos hx, List.countP_append, hopens, hbody,
        List.countP_cons_of_neg (by simp [hy]), List.countP_nil]
    rw [hsplit] at ho'
    have hge := position_ge (by omega) ho'
    simp only [List.length_append, List.length_cons, List.length_nil] at hge
    omega

end ReleaseArtifacts.Text
