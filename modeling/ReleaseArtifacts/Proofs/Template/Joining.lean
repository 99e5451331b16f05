import ReleaseArtifacts.Proofs.Template.BuildingAlike
import ReleaseArtifacts.Proofs.Template.LineRules
import ReleaseArtifacts.Proofs.Template.Literal
import ReleaseArtifacts.Proofs.Template.RunningAlike

namespace ReleaseArtifacts.Template

/-!
# Joining templates

A template that ends in a line feed leaves the scanner in literal text.  A second template after it
is scanned as it would be alone, except that it begins with that text, and further down.

* `Mode.onto`, `Scanner.onto` — where the scanner is in the second template, with literal text
  before it.  `Scanner.step_onto` is the invariant: one more character keeps the two in step.
* `Source.joined` — the first template with the second one after it; `scan_append` shows that this
  is how their texts are scanned.
* `items_joined` — at the seam the last text of the one and the first text of the other become one,
  each trimmed by its own tags.
* `parse_append` — no block is open at the seam, so that the statements follow each other as well.
* `render_append` — without assignments in the first template the two print one after the other.
-/

variable {k : Likeness} {base : List Char}

/-! ### One character in the second template -/

/-- The tag further down. -/
def Tag.moved (k : Likeness) (t : Tag) : Tag := { t with line := k.moved t.line }

/-- A chunk further down, with other literal text before it, which is in reverse. -/
def Chunk.onto (k : Likeness) (base : List Char) (c : Chunk) : Chunk :=
  (base.reverse ++ c.1, c.2.moved k)

/-- An opened tag further down, with other literal text before it. -/
def Opening.onto (k : Likeness) (base : List Char) (o : Opening) : Opening :=
  { o with before := o.before ++ base, line := k.moved o.line }

namespace Mode

/-- Where the scanner is further down, with other literal text before it. -/
def onto (k : Likeness) (base : List Char) : Mode → Mode
  | text s => text (s ++ base)
  | brace s => brace (s ++ base)
  | opened o => opened (o.onto k base)
  | inside o body => inside (o.onto k base) body
  | quotation o body quote escaped => quotation (o.onto k base) body quote escaped
  | verbatim s => verbatim (s ++ base)
  | verbatimBrace s => verbatimBrace (s ++ base)
  | verbatimTag s line body => verbatimTag (s ++ base) (k.moved line) body

/-- A step of the scanner further down.  The first tag that is closed takes the literal text before
    it, and none is left for what comes after. -/
def stepOnto (k : Likeness) (base : List Char) : Mode × Option Chunk → Mode × Option Chunk
  | (mode, none) => (mode.onto k base, none)
  | (mode, some chunk) => (mode.onto k [], some (chunk.onto k base))

end Mode

theorem close_onto (k : Likeness) (base : List Char) (o : Opening) (body : List Char) :
    ((o.onto k base).close body).1 = (o.close body).1.onto k [] ∧
      ((o.onto k base).close body).2 = (o.close body).2.onto k base := by
  simp only [Opening.close, Opening.onto, Chunk.onto, List.reverse_append]
  split <;> exact ⟨rfl, rfl⟩

theorem insideNext_onto (o : Opening) (body : List Char) (c : Char) :
    insideNext (o.onto k base) body c = Mode.stepOnto k base (insideNext o body c) := by
  have hclose := close_onto k base o body.tail
  simp only [insideNext]
  have hkind : (o.onto k base).kind = o.kind := rfl
  rw [hkind]
  split
  · exact Prod.ext hclose.1 (congrArg some hclose.2)
  · split <;> rfl

theorem verbatimEnd?_moved (line : Nat) (body : List Char) :
    verbatimEnd? (k.moved line) body = (verbatimEnd? line body).map (Tag.moved k) := by
  unfold verbatimEnd?
  split
  · simp only
    split <;> rfl
  · rfl

/-- **One character further down.** -/
theorem Mode.next_onto (m : Mode) (line : Nat) (c : Char) :
    (m.onto k base).next (k.moved line) c = stepOnto k base (m.next line c) := by
  cases m with
  | text s =>
    simp only [onto, next]
    split <;> rfl
  | brace s =>
    simp only [onto, next]
    split <;> rfl
  | opened o =>
    simp only [onto, next]
    split
    · rfl
    · exact insideNext_onto o [] c
  | inside o body => exact insideNext_onto o body c
  | quotation o body quote escaped =>
    simp only [onto, next]
    split_ifs <;> rfl
  | verbatim s =>
    simp only [onto, next]
    split <;> rfl
  | verbatimBrace s =>
    simp only [onto, next]
    split_ifs <;> rfl
  | verbatimTag s began body =>
    simp only [onto, next, verbatimEnd?_moved]
    split
    · cases verbatimEnd? began body with
      | none => simp [stepOnto, onto]
      | some tag => simp [stepOnto, onto, Chunk.onto]
    · split
      · simp [stepOnto, onto]
      · rfl

/-! ### The whole second template -/

/-- Chunks further down, latest first.  The literal text before them goes to the first of them. -/
def chunksOnto (k : Likeness) (base : List Char) : List Chunk → List Chunk
  | [] => []
  | c :: rest => c.onto k (if rest.isEmpty then base else []) :: chunksOnto k base rest

theorem chunksOnto_append (c : Chunk) (rest : List Chunk) :
    chunksOnto k base (rest ++ [c]) = rest.map (Chunk.onto k []) ++ [c.onto k base] := by
  induction rest with
  | nil => rfl
  | cons d rest ih =>
    have hrest : (rest ++ [c]).isEmpty = false := by simp
    rw [List.cons_append, chunksOnto, hrest, ih]
    rfl

namespace Scanner

/-- Where the scanner is in a template that stands after another one.  Of the other one it has
    `before`, and the literal text `base` at its end. -/
def onto (k : Likeness) (base : List Char) (before : List Chunk) (s : Scanner) : Scanner :=
  ⟨k.moved s.line, chunksOnto k base s.done ++ before,
    s.mode.onto k (if s.done.isEmpty then base else [])⟩

/-- **Both scanners stay in step.** -/
theorem step_onto (before : List Chunk) (s : Scanner) (c : Char) :
    (s.onto k base before).step c = (s.step c).onto k base before := by
  obtain ⟨line, done, mode⟩ := s
  cases hnext : mode.next line c with
  | mk mode' chunk =>
    simp only [step, onto, Mode.next_onto, hnext, k.moved_lineAfter]
    cases chunk <;> rfl

theorem run_onto (before : List Chunk) (s : Scanner) (source : List Char) :
    (s.onto k base before).run source = (s.run source).onto k base before :=
  List.foldl_hom (onto k base before) (step_onto before)

theorem run_line (s : Scanner) (source : List Char) :
    (s.run source).line = source.foldl lineAfter s.line :=
  (List.foldl_hom Scanner.line fun _ _ => rfl).symm

end Scanner

/-! ### The seam -/

/-- A template with another one after it. -/
def Source.joined (k : Likeness) (a b : Source) : Source :=
  match b.chunks with
  | [] => ⟨a.chunks, a.last ++ b.last⟩
  | (s, tag) :: rest =>
    ⟨a.chunks ++ (a.last ++ s, tag.moved k) :: rest.map fun c => (c.1, c.2.moved k), b.last⟩

/-- The literal text at the end of the first template goes to the first tag of the second one, or to
    the end if there is none. -/
theorem Source.joined_reverse (done before : List Chunk) (last : List Char) :
    joined k ⟨before.reverse, base.reverse⟩ ⟨done.reverse, last⟩ =
      ⟨(chunksOnto k base done ++ before).reverse,
        (if done.isEmpty then base.reverse else []) ++ last⟩ := by
  obtain rfl | ⟨rest, c, rfl⟩ := List.eq_nil_or_concat' done
  · simp [joined, chunksOnto]
  · simp [joined, chunksOnto_append, Chunk.onto]

theorem Scanner.finish_onto (before : List Chunk) {s : Scanner} {b : Source}
    (h : s.finish = some b) :
    (s.onto k base before).finish = some (Source.joined k ⟨before.reverse, base.reverse⟩ b) := by
  obtain ⟨line, done, mode⟩ := s
  cases mode with
  | text t =>
    obtain rfl : Source.mk done.reverse t.reverse = b := Option.some.inj h
    rw [Source.joined_reverse]
    simp only [finish, onto, Mode.onto]
    split <;> simp
  | brace t =>
    obtain rfl : Source.mk done.reverse ('{' :: t).reverse = b := Option.some.inj h
    rw [Source.joined_reverse]
    simp only [finish, onto, Mode.onto]
    split <;> simp
  | _ => cases h

/-- After a line feed nothing but literal text can be complete, and it ends in the line feed. -/
theorem Mode.next_lineFeed {m : Mode} {line line' : Nat} {done : List Chunk} {s : Source}
    (h : (Scanner.mk line' done (m.next line '\n').1).finish = some s) :
    ∃ t, m.next line '\n' = (.text ('\n' :: t), none) := by
  have hinside : ∀ o body, insideNext o body '\n' = (.inside o ('\n' :: body), none) := by
    intro o body
    simp [insideNext]
  cases m with
  | text t => exact ⟨t, rfl⟩
  | brace t => exact ⟨'{' :: t, rfl⟩
  | opened o =>
    have hnext : (opened o).next line '\n' = insideNext o [] '\n' := rfl
    rw [hnext, hinside] at h
    cases h
  | inside o body =>
    have hnext : (inside o body).next line '\n' = insideNext o body '\n' := rfl
    rw [hnext, hinside] at h
    cases h
  | quotation o body quote escaped =>
    simp only [next] at h
    split_ifs at h <;> cases h
  | verbatim t => cases h
  | verbatimBrace t => cases h
  | verbatimTag t began body => cases h

/-- **Scanning a template with another one after it.** -/
theorem scan_append {a b : List Char} {s t : Source} (ha : Source.scan a = some s) (h : EndsLine a)
    (hb : Source.scan b = some t) (hk : k.moved 1 = a.foldl lineAfter 1) :
    Source.scan (a ++ b) = some (s.joined k t) ∧ EndsLine s.last := by
  obtain ⟨a', rfl⟩ := h.exists_append
  let before := Scanner.start.run a'
  have hrun : Scanner.start.run (a' ++ ['\n']) = before.step '\n' := Scanner.run_append _ _ _
  rw [Source.scan, hrun] at ha
  obtain ⟨text, hnext⟩ := Mode.next_lineFeed ha
  have hstep : before.step '\n' =
      ⟨lineAfter before.line '\n', before.done, .text ('\n' :: text)⟩ := by
    rw [Scanner.step, hnext]
    rfl
  have hline : lineAfter before.line '\n' = k.moved 1 := by
    rw [hk, List.foldl_append, Scanner.run_line]
    rfl
  -- The second template is scanned from where the first one has left the scanner.
  have hseam : before.step '\n' = Scanner.start.onto k ('\n' :: text) before.done := by
    rw [hstep, hline]
    rfl
  rw [hstep] at ha
  obtain rfl : Source.mk before.done.reverse ('\n' :: text).reverse = s := Option.some.inj ha
  constructor
  · rw [Source.scan, Scanner.run_append, hrun, hseam, Scanner.run_onto]
    exact Scanner.finish_onto before.done hb
  · simp [EndsLine]

/-! ### Items -/

/-- The items before the literal text at the end. -/
def tagItems (previous : Option Tag) : List Chunk → List Item
  | [] => []
  | (s, tag) :: rest =>
    .text (trimmed previous (some tag) s) :: .tag tag :: tagItems (some tag) rest

/-- The last of some tags, or the one before them. -/
def lastTag (previous : Option Tag) : List Chunk → Option Tag
  | [] => previous
  | (_, tag) :: rest => lastTag (some tag) rest

theorem itemsFrom_append (previous : Option Tag) (last : List Char) (a b : List Chunk) :
    itemsFrom previous last (a ++ b) =
      tagItems previous a ++ itemsFrom (lastTag previous a) last b := by
  induction a generalizing previous with
  | nil => rfl
  | cons c a ih => simp only [List.cons_append, itemsFrom, tagItems, lastTag, ih]

theorem lastTag_mem {previous : Option Tag} {chunks : List Chunk} :
    ∀ t ∈ lastTag previous chunks, t ∈ previous ∨ t ∈ chunks.map Prod.snd := by
  induction chunks generalizing previous with
  | nil => exact fun t ht => .inl ht
  | cons c chunks ih =>
    intro t ht
    obtain hc | hchunks := ih t ht
    · obtain rfl : c.2 = t := Option.some.inj hc
      exact .inr (by simp)
    · exact .inr (by simp [hchunks])

/-- **Items at the seam.**  The texts on both sides of it become one.  All items before it are those
    of the first template, and all items after it are like those of the second. -/
theorem items_joined {s t : Source} (h : EndsLine s.last)
    (hs : ∀ c ∈ s.chunks, c.2.Unmarked)
    (ht : ∀ c ∈ t.chunks, c.2.Unmarked ∧ c.2.Alike k (c.2.moved k)) :
    ∃ front x y tail tail', s.items = front ++ [.text x] ∧ t.items = .text y :: tail ∧
      (s.joined k t).items = front ++ .text (x ++ y) :: tail' ∧
      List.Forall₂ (Item.Alike k) tail tail' := by
  have hlast : ∀ t ∈ lastTag none s.chunks, t.Unmarked := by
    intro t ht
    obtain hnone | hmem := lastTag_mem t ht
    · cases hnone
    · obtain ⟨c, hc, rfl⟩ := List.mem_map.mp hmem
      exact hs c hc
  let front := tagItems none s.chunks
  let x := trimmed (lastTag none s.chunks) none s.last
  have hfront : s.items = front ++ [.text x] := by
    have hitems := itemsFrom_append none s.last s.chunks []
    rwa [List.append_nil] at hitems
  obtain ⟨chunks, last⟩ := t
  cases chunks with
  | nil =>
    have hseam := trimmed_append h hlast (by simp : ∀ t ∈ (none : Option Tag), t.Unmarked) last
    refine ⟨front, x, last, [], [], hfront, rfl, ?_, .nil⟩
    have hitems := itemsFrom_append none (s.last ++ last) s.chunks []
    rw [List.append_nil, itemsFrom, hseam] at hitems
    exact hitems
  | cons c rest =>
    obtain ⟨v, tag⟩ := c
    obtain ⟨⟨hunmarked, htag⟩, hrest⟩ := List.forall_mem_cons.mp ht
    have hmoved : ∀ t ∈ some (tag.moved k), t.Unmarked := by
      intro t ht
      obtain rfl : tag.moved k = t := Option.some.inj ht
      exact ⟨hunmarked.opening, hunmarked.closing⟩
    have hseam := trimmed_append h hlast hmoved v
    have hchunks : List.Forall₂ (Chunk.Alike k) rest (rest.map fun c => (c.1, c.2.moved k)) := by
      rw [List.forall₂_map_right_iff, List.forall₂_same]
      exact fun c hc => ⟨rfl, (hrest c hc).2⟩
    refine ⟨front, x, trimmed none (some tag) v, _, _, hfront, rfl, ?_,
      .cons (.tag htag) (itemsFrom_alike (.some htag) hchunks last)⟩
    have hitems := itemsFrom_append none last s.chunks
      ((s.last ++ v, tag.moved k) :: rest.map fun c => (c.1, c.2.moved k))
    rw [itemsFrom, hseam] at hitems
    exact hitems

/-! ### Statements -/

/-- The likeness of templates, one of which is some lines further down. -/
def below (n : Nat) : Likeness where
  name _ := True
  moved line := min (line + n) lastLine
  moved_lineAfter line c := by
    unfold lineAfter lastLine
    split <;> omega
  assigns := True

theorem Tag.alike_below (n : Nat) (t : Tag) : t.Alike (below n) (t.moved (below n)) :=
  ⟨rfl, rfl, rfl, rfl, rfl, fun _ _ => trivial, fun _ => trivial⟩

/-- The items of a template with their statements. -/
theorem parse_eq_some_iff {source : String} {statements : List Statement} :
    Statement.parse source = some statements ↔
      ∃ s, Source.scan source.toList = some s ∧
        Builder.start.run s.items = some ⟨[], statements.reverse⟩ := by
  simp only [Statement.parse, Option.bind_eq_bind, Option.bind_eq_some_iff,
    Builder.finish_eq_some_iff, exists_eq_right]

/-- The items of a template are built one after the other. -/
theorem Builder.run_append (b : Builder) (first rest : List Item) :
    b.run (first ++ rest) = (b.run first).bind fun b => b.run rest := by
  rw [run, List.foldlM_append]
  rfl

section Statements

variable {a b : String} {s t : List Statement}

/-- **Reading a template with another one after it.**  No block is open at the seam, so that the
    statements of the two stand one after the other.  The text that prints at the seam is one
    statement, and all statements after it are further down. -/
theorem parse_append (ha : Statement.parse a = some s) (hb : Statement.parse b = some t)
    (hends : EndsLine a.toList) (hunmarked : ∀ t ∈ tagsOf a ++ tagsOf b, t.Unmarked) :
    ∃ front x y rest rest', s = front ++ [.text x] ∧ t = .text y :: rest ∧
      Statement.AlikeAll (below (a.toList.count '\n')) rest rest' ∧
      Statement.parse (a ++ b) = some (front ++ .text (x ++ y) :: rest') := by
  obtain ⟨sa, hsa, hra⟩ := parse_eq_some_iff.mp ha
  obtain ⟨sb, hsb, hrb⟩ := parse_eq_some_iff.mp hb
  let k := below (a.toList.count '\n')
  have hk : k.moved 1 = a.toList.foldl lineAfter 1 := (foldl_lineAfter _ (by decide)).symm
  obtain ⟨hscan, hlast⟩ := scan_append hsa hends hsb hk
  have htags : (∀ c ∈ sa.chunks, c.2.Unmarked) ∧ ∀ c ∈ sb.chunks, c.2.Unmarked := by
    simp only [tagsOf, hsa, hsb, List.mem_append, or_imp, forall_and] at hunmarked
    exact ⟨fun c hc => hunmarked.1 _ (List.mem_map_of_mem hc),
      fun c hc => hunmarked.2 _ (List.mem_map_of_mem hc)⟩
  obtain ⟨front, x, y, tail, tail', hitemsA, hitemsB, hitems, htail⟩ := items_joined (k := k) hlast
    htags.1 fun c hc => ⟨htags.2 c hc, c.2.alike_below _⟩
  -- The first template up to its last text.
  rw [hitemsA, Builder.run_append] at hra
  obtain ⟨⟨levels, current⟩, hfront, hclosed⟩ := Option.bind_eq_some_iff.mp hra
  obtain ⟨rfl, hs⟩ : levels = [] ∧ .text (String.ofList x) :: current = s.reverse := by
    simpa [Builder.run, Builder.step, Builder.add] using hclosed
  -- The second template after its first text: alone, and on top of the statements of the first.
  have halone : (Builder.mk [] [.text (String.ofList y)]).run tail = some ⟨[], t.reverse⟩ := by
    rw [hitemsB] at hrb
    exact hrb
  have hboth := Builder.run_alike (Builder.Alike.begun [.text (String.ofList y)]
    (.text (String.ofList (x ++ y)) :: current)) htail
  rw [halone] at hboth
  obtain ⟨hnone, -⟩ | ⟨_, b', hb', hafter, halike⟩ := rel_cases hboth
  · cases hnone
  obtain rfl := Option.some.inj hb'
  obtain ⟨rest, rest', hrest, ht, rfl⟩ := halike.closed
  refine ⟨current.reverse, String.ofList x, String.ofList y, rest.reverse, rest'.reverse, ?_, ?_,
    hrest.reverse, ?_⟩
  · rw [← List.reverse_cons, hs, List.reverse_reverse]
  · rw [← List.reverse_reverse t, ht, List.reverse_append]
    rfl
  · rw [parse_eq_some_iff, String.toList_append]
    refine ⟨_, hscan, ?_⟩
    rw [hitems, Builder.run_append, hfront, ← String.ofList_append]
    simpa [Builder.run, Builder.step, Builder.add] using hafter

/-! ### What the two print -/

/-- A template prints what its statements print. -/
theorem render_eq_ok_iff {statements : List Statement} {globals : List (String × Value)}
    {out : String} :
    render statements globals = .ok out ↔
      ∃ scope, Statement.runAll (Scope.ofGlobals globals) statements = .ok (scope, out) := by
  rw [render]
  cases Statement.runAll (Scope.ofGlobals globals) statements with
  | error stop => simp [Except.map]
  | ok result => simp [Except.map, Prod.ext_iff]

section Seam

variable {scope scope' : Scope} {front rest : List Statement} {x y out before after : String}

theorem runAll_text (scope : Scope) (x : String) (rest : List Statement) :
    Statement.runAll scope (.text x :: rest) = do
      let (scope, more) ← Statement.runAll scope rest
      return (scope, x ++ more) := rfl

/-- What is printed before a text at the end. -/
theorem runAll_front (h : Statement.runAll scope (front ++ [.text x]) = .ok (scope', out)) :
    ∃ before, Statement.runAll scope front = .ok (scope', before) ∧ out = before ++ x := by
  rw [runAll_append] at h
  obtain ⟨⟨mid, before⟩, hfront, hlast⟩ := bind_eq_ok_iff.mp h
  have hends : Except.ok (mid, before ++ (x ++ "")) = (.ok (scope', out) : Except Stop _) := hlast
  rw [String.append_empty] at hends
  cases hends
  exact ⟨before, hfront, rfl⟩

/-- What is printed after a text at the start. -/
theorem runAll_rest (h : Statement.runAll scope (.text y :: rest) = .ok (scope', out)) :
    ∃ after, Statement.runAll scope rest = .ok (scope', after) ∧ out = y ++ after := by
  rw [runAll_text] at h
  obtain ⟨⟨last, after⟩, hrest, hends⟩ := bind_eq_ok_iff.mp h
  cases hends
  exact ⟨after, hrest, rfl⟩

/-- The text where two templates meet is printed once, for both of them. -/
theorem runAll_seam (hfront : Statement.runAll scope front = .ok (scope, before))
    (hrest : Statement.runAll scope rest = .ok (scope', after)) :
    Statement.runAll scope (front ++ .text (x ++ y) :: rest) =
      .ok (scope', (before ++ x) ++ (y ++ after)) := by
  rw [runAll_append, hfront, ok_bind]
  simp only [runAll_text, hrest, ok_bind, pure_bind]
  simp only [String.append_assoc]
  rfl

end Seam

/-- Without assignments the names stand for the same after a template as before it. -/
theorem parsed_keeps (h : Statement.parse a = some s) (hassigns : ∀ t ∈ tagsOf a, ¬ t.Assigns)
    {scope scope' : Scope} {out : String} (hrun : Statement.runAll scope s = .ok (scope', out)) :
    scope' = scope := by
  have halike : Statement.AlikeAll (.still (fun _ => True) False) s s :=
    parse_alike h fun t ht => Tag.alike_still (fun _ _ => trivial) (hassigns t ht)
  exact Statement.runAll_keeps halike id hrun

/-- **Printing a template with another one after it.**  The second one finds the names as they were
    before the first one. -/
theorem render_append {globals : List (String × Value)} {out out' : String}
    (ha : Statement.parse a = some s) (hb : Statement.parse b = some t)
    (hends : EndsLine a.toList) (hassigns : ∀ t ∈ tagsOf a, ¬ t.Assigns)
    (hunmarked : ∀ t ∈ tagsOf a ++ tagsOf b, t.Unmarked) (hs : render s globals = .ok out)
    (ht : render t globals = .ok out') :
    ∃ statements, Statement.parse (a ++ b) = some statements ∧
      render statements globals = .ok (out ++ out') := by
  obtain ⟨scope, hrunA⟩ := render_eq_ok_iff.mp hs
  obtain ⟨last, hrunB⟩ := render_eq_ok_iff.mp ht
  obtain rfl := parsed_keeps ha hassigns hrunA
  obtain ⟨front, x, y, rest, rest', rfl, rfl, halike, hparse⟩ := parse_append ha hb hends hunmarked
  obtain ⟨before, hfront, rfl⟩ := runAll_front hrunA
  obtain ⟨after, hrest, rfl⟩ := runAll_rest hrunB
  -- The second template further down prints the same.
  have hmoved := Statement.runAll_alike halike (Scope.Alike.refl (.ofGlobals globals))
  rw [hrest] at hmoved
  generalize hresult : Statement.runAll _ rest' = result at hmoved
  cases hmoved with
  | ok _ _ => exact ⟨_, hparse, render_eq_ok_iff.mpr ⟨_, runAll_seam hfront hresult⟩⟩

end Statements

end ReleaseArtifacts.Template
