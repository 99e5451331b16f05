import ReleaseArtifacts.Proofs.Template.TagsAlike

namespace ReleaseArtifacts.Template

/-!
# Building statements alike

From items that are alike the builder makes alike statements.  It may have begun with other
statements: those stay under the new ones, on both sides.

* `Builder.Alike k base base'` — the blocks that are open are alike, and so are all statements above
  `base` and `base'`.
* `Builder.keyword_alike`, `Builder.step_alike`, `Builder.run_alike` — one block tag, one item, and
  all items.
* `itemsFrom_alike` — chunks that are alike have alike items.
* `parse_alike` — the statements of a template are alike themselves if all of its tags are.
-/

variable {k : Likeness} {base base' : List Statement}

/-! ### Open blocks -/

/-- The same arm with alike parts, on a moved line. -/
structure Arm.Alike (k : Likeness) (a a' : Arm) : Prop where
  line : a'.line = k.moved a.line
  condition : a.condition.Alike k a'.condition
  body : Statement.AlikeAll k a.body a'.body

/-- The same open block with alike parts, on a moved line. -/
inductive Block.Alike (k : Likeness) : Block → Block → Prop
  | arm {finished finished' : List Arm} {c c' : Expr}
    (hfinished : List.Forall₂ (Arm.Alike k) finished finished') (line : Nat) (hc : c.Alike k c') :
    Alike k (.arm finished line c) (.arm finished' (k.moved line) c')
  | otherwise {finished finished' : List Arm}
    (hfinished : List.Forall₂ (Arm.Alike k) finished finished') :
    Alike k (.otherwise finished) (.otherwise finished')
  | loop {source source' : Expr} {keep keep' : Option Expr} (line : Nat) (target : String)
    (hsource : source.Alike k source') (hkeep : Option.Rel (Expr.Alike k) keep keep') :
    Alike k (.loop line target source keep) (.loop (k.moved line) target source' keep')
  | empty {source source' : Expr} {keep keep' : Option Expr} {body body' : List Statement}
    (line : Nat) (target : String) (hsource : source.Alike k source')
    (hkeep : Option.Rel (Expr.Alike k) keep keep') (hbody : Statement.AlikeAll k body body') :
    Alike k (.empty line target source keep body) (.empty (k.moved line) target source' keep' body')

/-- Arms that are alike make alike branches. -/
theorem branches_alike {finished finished' : List Arm} {no no' : List Statement}
    (h : List.Forall₂ (Arm.Alike k) finished finished') (hno : Statement.AlikeAll k no no') :
    Statement.AlikeAll k (branches finished no) (branches finished' no') := by
  induction h generalizing no no' with
  | nil => exact hno
  | cons harm _ ih =>
    refine ih (.cons ?_ .nil)
    rw [harm.line]
    exact .branch _ harm.condition harm.body hno

/-- Builders with alike open blocks, and alike statements above those that they began with. -/
inductive Builder.Alike (k : Likeness) (base base' : List Statement) : Builder → Builder → Prop
  | bottom {c c' : List Statement} (hc : Statement.AlikeAll k c c') :
    Alike k base base' ⟨[], c ++ base⟩ ⟨[], c' ++ base'⟩
  | level {block block' : Block} {before before' c c' : List Statement}
    {levels levels' : List (Block × List Statement)} (hblock : block.Alike k block')
    (hc : Statement.AlikeAll k c c')
    (hbelow : Alike k base base' ⟨levels, before⟩ ⟨levels', before'⟩) :
    Alike k base base' ⟨(block, before) :: levels, c⟩ ⟨(block', before') :: levels', c'⟩

namespace Builder

variable {b b' : Builder}

/-- Builders that have just begun. -/
theorem Alike.begun (s s' : List Statement) : Alike k s s' ⟨[], s⟩ ⟨[], s'⟩ := .bottom .nil

theorem Alike.append {levels levels' : List (Block × List Statement)}
    {c c' s s' : List Statement} (h : Alike k base base' ⟨levels, c⟩ ⟨levels', c'⟩)
    (hs : Statement.AlikeAll k s s') :
    Alike k base base' ⟨levels, s ++ c⟩ ⟨levels', s' ++ c'⟩ := by
  cases h with
  | bottom hc =>
    rw [← List.append_assoc, ← List.append_assoc]
    exact .bottom (hs.append hc)
  | level hblock hc hbelow => exact .level hblock (hs.append hc) hbelow

theorem Alike.add {s s' : Statement} (h : Alike k base base' b b') (hs : s.Alike k s') :
    Alike k base base' (b.add s) (b'.add s') :=
  h.append (.cons hs .nil)

theorem Alike.enter {block block' : Block} (h : Alike k base base' b b')
    (hblock : block.Alike k block') :
    Alike k base base' (b.enter block) (b'.enter block') :=
  .level hblock .nil h

/-! ### One item after the other -/

/-- **Block tags.**  One case for each tag, and one for each block it can end or go on with. -/
theorem keyword_alike {w w' : Keyword} (h : Alike k base base' b b') (hw : w.Alike k w')
    (line : Nat) :
    Option.Rel (Alike k base base') (b.keyword line w) (b'.keyword (k.moved line) w') := by
  cases hw with
  | assign hassigns x he => exact .some (h.add (.assign hassigns line x he))
  | condition hc => exact .some (h.enter (.arm .nil line hc))
  | loop target hsource hkeep => exact .some (h.enter (.loop line target hsource hkeep))
  | orCondition hc =>
    cases h with
    | bottom _ => exact .none
    | level hblock hbody hbelow =>
      cases hblock with
      | arm hfinished l hcond =>
        exact .some (.level (.arm (.cons ⟨rfl, hcond, hbody.reverse⟩ hfinished) line hc) .nil
          hbelow)
      | _ => exact .none
  | otherwise =>
    cases h with
    | bottom _ => exact .none
    | level hblock hbody hbelow =>
      cases hblock with
      | arm hfinished l hcond =>
        exact .some (.level (.otherwise (.cons ⟨rfl, hcond, hbody.reverse⟩ hfinished)) .nil hbelow)
      | loop l target hsource hkeep =>
        exact .some (.level (.empty l target hsource hkeep hbody.reverse) .nil hbelow)
      | _ => exact .none
  | endCondition =>
    cases h with
    | bottom _ => exact .none
    | level hblock hbody hbelow =>
      cases hblock with
      | arm hfinished l hcond =>
        exact .some (hbelow.append
          (branches_alike (.cons ⟨rfl, hcond, hbody.reverse⟩ hfinished) .nil))
      | otherwise hfinished => exact .some (hbelow.append (branches_alike hfinished hbody.reverse))
      | _ => exact .none
  | endLoop =>
    cases h with
    | bottom _ => exact .none
    | level hblock hbody hbelow =>
      cases hblock with
      | loop l target hsource hkeep =>
        exact .some (hbelow.add (.loop l target hsource hkeep hbody.reverse .nil))
      | empty l target hsource hkeep hfull =>
        exact .some (hbelow.add (.loop l target hsource hkeep hfull hbody.reverse))
      | _ => exact .none

theorem tag_alike {t t' : Tag} (h : Alike k base base' b b') (ht : t.Alike k t') :
    Option.Rel (Alike k base base') (b.tag t) (b'.tag t') := by
  cases hkind : t.kind with
  | output =>
    simp only [tag, ht.kind, hkind]
    refine rel_bind (ht.lexemes (.inl hkind)) fun ls ls' hls => ?_
    refine rel_bind (wholeExpr_alike hls.1) fun e e' he => ?_
    rw [ht.line]
    exact .some (h.add (.output t.line he))
  | block =>
    simp only [tag, ht.kind, hkind]
    refine rel_bind (ht.lexemes (.inr hkind)) fun ls ls' hls => ?_
    have hassigns : (ls.map Lexeme.token).head? = some (.word "set") → k.assigns :=
      fun hset => ht.assigns ⟨hkind, hls.2 ▸ hset⟩
    refine rel_bind (Keyword.read_alike hls.1 hassigns) fun w w' hw => ?_
    rw [ht.line]
    exact keyword_alike h hw t.line
  | comment =>
    simp only [tag, ht.kind, hkind]
    exact .some h
  | verbatim =>
    simp only [tag, ht.kind, hkind]
    exact .some h

theorem step_alike {i i' : Item} (h : Alike k base base' b b') (hi : i.Alike k i') :
    Option.Rel (Alike k base base') (b.step i) (b'.step i') := by
  cases hi with
  | text s => exact .some (h.add (.text _))
  | tag ht => exact tag_alike h ht

/-- **Items that are alike** make builders that are alike. -/
theorem run_alike {items items' : List Item} (h : Alike k base base' b b')
    (hitems : List.Forall₂ (Item.Alike k) items items') :
    Option.Rel (Alike k base base') (b.run items) (b'.run items') := by
  induction hitems generalizing b b' with
  | nil => exact .some h
  | cons hi _ ih =>
    simp only [run, List.foldlM_cons]
    exact rel_bind (step_alike h hi) fun _ _ hb => ih hb

/-- What a builder without open blocks has added to the statements it began with. -/
theorem Alike.closed {c : List Statement} (h : Alike k base base' ⟨[], c⟩ b') :
    ∃ s s', Statement.AlikeAll k s s' ∧ c = s ++ base ∧ b' = ⟨[], s' ++ base'⟩ := by
  cases h with
  | bottom hc => exact ⟨_, _, hc, rfl, rfl⟩

theorem finish_eq_some_iff {s : List Statement} :
    b.finish = some s ↔ b = ⟨[], s.reverse⟩ := by
  obtain ⟨levels, current⟩ := b
  cases levels with
  | nil =>
    simp only [finish, List.isEmpty_nil, if_true, Option.some.injEq, mk.injEq, true_and]
    exact List.reverse_eq_iff
  | cons _ _ => simp [finish]

end Builder

/-! ### Whole templates -/

/-- Tags that are alike trim a text alike. -/
theorem trimmed_alike {previous previous' next next' : Option Tag}
    (hprevious : Option.Rel (Tag.Alike k) previous previous')
    (hnext : Option.Rel (Tag.Alike k) next next') (s : List Char) :
    trimmed previous' next' s = trimmed previous next s := by
  have hbefore : ∀ {t t' : Tag}, t.Alike k t' → ∀ first s,
      beforeTag first t' s = beforeTag first t s := by
    intro t t' ht first s
    simp only [beforeTag, ht.kind, ht.opening]
  have hafter : ∀ {t t' : Tag}, t.Alike k t' → ∀ s, afterTag t' s = afterTag t s := by
    intro t t' ht s
    simp only [afterTag, ht.kind, ht.closing]
  cases hprevious with
  | none =>
    cases hnext with
    | none => rfl
    | some ht => exact hbefore ht true s
  | some hp =>
    cases hnext with
    | none => exact hafter hp s
    | some ht =>
      simp only [trimmed, Option.isNone_some, hbefore ht, hafter hp]

theorem itemsFrom_alike {previous previous' : Option Tag} {chunks chunks' : List Chunk}
    (hprevious : Option.Rel (Tag.Alike k) previous previous')
    (h : List.Forall₂ (Chunk.Alike k) chunks chunks') (last : List Char) :
    List.Forall₂ (Item.Alike k) (itemsFrom previous last chunks)
      (itemsFrom previous' last chunks') := by
  induction h generalizing previous previous' with
  | nil =>
    rw [itemsFrom, itemsFrom, trimmed_alike hprevious .none]
    exact .cons (.text _) .nil
  | @cons c c' _ _ hc _ ih =>
    rw [itemsFrom, itemsFrom, hc.text, trimmed_alike hprevious (.some hc.tag)]
    exact .cons (.text _) (.cons (.tag hc.tag) (ih (.some hc.tag)))

/-- The tags of a template text; none if one of them is left open. -/
def tagsOf (source : String) : List Tag :=
  match Source.scan source.toList with
  | some s => s.chunks.map Prod.snd
  | none => []

/-- **Templates.**  All statements keep to what the tags keep to. -/
theorem parse_alike {source : String} {statements : List Statement}
    (hparse : Statement.parse source = some statements)
    (h : ∀ t ∈ tagsOf source, t.Alike k t) : Statement.AlikeAll k statements statements := by
  obtain ⟨s, hs, hrest⟩ := Option.bind_eq_some_iff.mp hparse
  obtain ⟨b, hb, hfinish⟩ := Option.bind_eq_some_iff.mp hrest
  have hchunks : List.Forall₂ (Chunk.Alike k) s.chunks s.chunks := by
    rw [List.forall₂_same]
    intro c hc
    refine ⟨rfl, h c.2 ?_⟩
    simp only [tagsOf, hs]
    exact List.mem_map_of_mem hc
  have hrun := Builder.run_alike (Builder.Alike.begun [] []) (itemsFrom_alike .none hchunks s.last)
  obtain rfl := Builder.finish_eq_some_iff.mp hfinish
  have hboth : Option.Rel (Builder.Alike k [] []) (Builder.start.run s.items)
      (Builder.start.run s.items) := hrun
  rw [hb] at hboth
  cases hboth with
  | some hb =>
    obtain ⟨c, c', hc, hstatements, hstatements'⟩ := hb.closed
    simp only [List.append_nil, Builder.mk.injEq, true_and] at hstatements hstatements'
    rw [← hstatements, ← hstatements'] at hc
    simpa using hc.reverse

end ReleaseArtifacts.Template
