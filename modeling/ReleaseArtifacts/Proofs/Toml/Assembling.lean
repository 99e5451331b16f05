import ReleaseArtifacts.Proofs.Lookup
import ReleaseArtifacts.Proofs.Toml.Lines

namespace ReleaseArtifacts.Toml

/-!
# What a layout stands for

* `Layout.Distinct` — no key is defined twice.
* `Layout.value?` — what a key of the root table then stands for: an entry of the root, the table of
  a section, or the tables of all sections of that name.
* `Built` — the invariant of the assembly; `Built.addSection` is its step.
* `Layout.Writes.exists_table` — the root table of a text that writes a layout.
-/

/-! ### Keys of a layout -/

/-- Two sections may have one name only if both are elements of the list of that name. -/
def Section.Compatible (s t : Section) : Prop := s.name = t.name → s.repeated ∧ t.repeated

theorem Section.Compatible.symm {s t : Section} (h : s.Compatible t) : t.Compatible s :=
  fun hname => (h hname.symm).symm

/-- No key is defined twice, and only repeated sections share a name. -/
structure Layout.Distinct (layout : Layout) : Prop where
  root : (layout.root.map Prod.fst).Nodup
  entries : ∀ s ∈ layout.sections, (s.entries.map Prod.fst).Nodup
  apart : ∀ s ∈ layout.sections, s.name ∉ layout.root.map Prod.fst
  compatible : layout.sections.Pairwise Section.Compatible

/-- What the sections of one name stand for. -/
def sectionValue? : List Section → Option Value
  | [] => none
  | s :: more =>
    some (if s.repeated then .array ((s :: more).map fun t => .table t.entries)
      else .table s.entries)

/-- What a key of the root table stands for. -/
def Layout.value? (layout : Layout) (key : String) : Option Value :=
  (layout.root.lookup key).or (sectionValue? (layout.sections.filter (·.name = key)))

/-! ### Nodes -/

section Nodes

variable {key : String} {n : Node} {nodes : Entries} {entries : Table}

theorem lookup_put (key k : String) (n : Node) (nodes : Entries) :
    (put key n nodes).lookup k = if k = key then some n else nodes.lookup k := by
  fun_induction put key n nodes with
  | case1 => by_cases hk : k = key <;> simp [hk]
  | case2 old rest =>
    by_cases hk : k = key
    · simp [hk]
    · simp [List.lookup_cons, beq_false_of_ne hk, hk]
  | case3 k' old rest hne ih =>
    rw [List.lookup_cons, List.lookup_cons, ih]
    by_cases hk : k = key
    · subst hk
      simp [beq_false_of_ne (Ne.symm hne)]
    · simp [hk]

theorem mem_keys_put (key k : String) (n : Node) (nodes : Entries) :
    k ∈ (put key n nodes).map Prod.fst ↔ k = key ∨ k ∈ nodes.map Prod.fst := by
  fun_induction put key n nodes with
  | case1 => simp
  | case2 old rest => simp
  | case3 k' old rest hne ih =>
    rw [List.map_cons, List.mem_cons, ih, List.map_cons, List.mem_cons]
    exact or_left_comm

theorem nodup_keys_put (h : (nodes.map Prod.fst).Nodup) :
    ((put key n nodes).map Prod.fst).Nodup := by
  fun_induction put key n nodes with
  | case1 => simp
  | case2 old rest => exact h
  | case3 k' old rest hne ih =>
    rw [List.map_cons, List.nodup_cons] at h ⊢
    rw [mem_keys_put, not_or]
    exact ⟨⟨hne, h.1⟩, ih h.2⟩

/-- A key that is not there is put at the end. -/
theorem put_of_notMem (h : key ∉ nodes.map Prod.fst) : put key n nodes = nodes ++ [(key, n)] := by
  fun_induction put key n nodes with
  | case1 => rfl
  | case2 old rest => simp at h
  | case3 k' old rest hne ih =>
    rw [List.cons_append, ih fun hmem => h (List.mem_cons_of_mem _ hmem)]

/-- An entry as a node of its own. -/
def entryNode (e : String × Value) : String × Node := (e.1, .value e.2)

theorem lookup_entries (entries : Table) (key : String) :
    (entries.map entryNode).lookup key = (entries.lookup key).map .value := by
  induction entries with
  | nil => rfl
  | cons e entries ih =>
    rw [List.map_cons, entryNode, List.lookup_cons, List.lookup_cons, ih]
    cases key == e.1 <;> rfl

/-- Assignments to distinct keys become the entries, in their order. -/
theorem assignAll_entries (done : Table) (h : ((done ++ entries).map Prod.fst).Nodup) :
    assignAll (done.map entryNode) (entries.map entryAssignment) =
      some ((done ++ entries).map entryNode) := by
  induction entries generalizing done with
  | nil => simp [assignAll]
  | cons e entries ih =>
    have hkey : e.1 ∉ (done.map entryNode).map Prod.fst := by
      rw [List.map_append, List.map_cons] at h
      intro hmem
      refine List.disjoint_of_nodup_append h ?_ (List.mem_cons_self ..)
      simpa [entryNode] using hmem
    have hassign : assign e.1 e.2 [] (done.map entryNode) = some ((done ++ [e]).map entryNode) := by
      rw [assign, lookup_eq_none_of_notMem hkey, put_of_notMem hkey]
      simp [entryNode]
    have hdone := ih (done ++ [e]) (by simpa using h)
    rw [assignAll, List.map_cons, List.foldlM_cons]
    simp only [entryAssignment, hassign]
    simpa [assignAll] using hdone

/-- What a node at a key has become is found at the key. -/
theorem lookup_complete (nodes : Entries) (key : String) :
    (complete nodes).lookup key = (nodes.lookup key).map Node.toValue := by
  induction nodes with
  | nil => rfl
  | cons e nodes ih =>
    rw [complete, List.lookup_cons, List.lookup_cons, ih]
    cases key == e.1 <;> rfl

theorem keys_complete (nodes : Entries) :
    (complete nodes).map Prod.fst = nodes.map Prod.fst := by
  induction nodes with
  | nil => rfl
  | cons e nodes ih => rw [complete, List.map_cons, List.map_cons, ih]

theorem complete_entries (entries : Table) : complete (entries.map entryNode) = entries := by
  induction entries with
  | nil => rfl
  | cons e entries ih => rw [List.map_cons, entryNode, complete, ih, Node.toValue]

theorem completeAll_entries (tables : List Table) :
    completeAll (tables.map (·.map entryNode)) = tables.map .table := by
  induction tables with
  | nil => rfl
  | cons t tables ih => rw [List.map_cons, completeAll, complete_entries, ih, List.map_cons]

end Nodes

/-! ### Sections -/

/-- The entries of a section as nodes. -/
def Section.nodes (s : Section) : Entries := s.entries.map entryNode

/-- The node that the sections of one name build. -/
def sectionNode? : List Section → Option Node
  | [] => none
  | s :: more =>
    some (if s.repeated then .tables ((s :: more).map Section.nodes) else .table .header s.nodes)

theorem sectionValue?_eq (sections : List Section) :
    sectionValue? sections = (sectionNode? sections).map Node.toValue := by
  cases sections with
  | nil => rfl
  | cons s more =>
    rw [sectionValue?, sectionNode?, Option.map_some]
    cases s.repeated with
    | true =>
      have hmap : (s :: more).map Section.nodes =
          ((s :: more).map Section.entries).map (·.map entryNode) := by simp [Section.nodes]
      simp only [if_true, hmap, Node.toValue, completeAll_entries]
      simp
    | false => simp [Node.toValue, Section.nodes, complete_entries]

/-- What the assembly has built from the root entries and some sections: every key has the node that
    the sections of its name build. -/
structure Built (root : Table) (done : List Section) (nodes : Entries) : Prop where
  nodup : (nodes.map Prod.fst).Nodup
  lookup_eq : ∀ key, nodes.lookup key =
    ((root.lookup key).map .value).or (sectionNode? (done.filter (·.name = key)))

section Sections

variable {root : Table} {done : List Section} {s : Section} {nodes : Entries}

/-- A section adds its table to what the sections of its name have built. -/
theorem addSection_eq (hentries : (s.entries.map Prod.fst).Nodup)
    (hnode : nodes.lookup s.name = sectionNode? done)
    (hrepeated : ∀ t ∈ done, t.repeated ∧ s.repeated) :
    ∃ n, Document.addSection nodes (s.header, s.entries.map entryAssignment) =
      some (put s.name n nodes) ∧ sectionNode? (done ++ [s]) = some n := by
  have hassign : assignAll [] (s.entries.map entryAssignment) = some s.nodes :=
    assignAll_entries [] hentries
  cases done with
  | nil =>
    -- The first section of its name makes the node.
    refine ⟨if s.repeated then .tables [s.nodes] else .table .header s.nodes, ?_, rfl⟩
    rw [Document.addSection, Section.header]
    cases s.repeated <;> simp [atPath, openTable, openElement, hnode, sectionNode?, hassign]
  | cons t more =>
    -- A further one is an element of a list of tables that is there already.
    obtain ⟨ht, hs⟩ := hrepeated t (List.mem_cons_self ..)
    refine ⟨.tables ((t :: more).map Section.nodes ++ [s.nodes]), ?_, by simp [sectionNode?, ht]⟩
    rw [Document.addSection, Section.header, if_pos hs]
    simp [atPath, openElement, hnode, sectionNode?, ht, hassign]

/-- **One section is put in its place.** -/
theorem Built.addSection (h : Built root done nodes) (hentries : (s.entries.map Prod.fst).Nodup)
    (hroot : s.name ∉ root.map Prod.fst)
    (hcompatible : ∀ t ∈ done, t.Compatible s) :
    ∃ nodes', Document.addSection nodes (s.header, s.entries.map entryAssignment) = some nodes' ∧
      Built root (done ++ [s]) nodes' := by
  have hnode : nodes.lookup s.name = sectionNode? (done.filter (·.name = s.name)) := by
    rw [h.lookup_eq, lookup_eq_none_of_notMem hroot, Option.map_none, Option.none_or]
  have hrepeated : ∀ t ∈ done.filter (·.name = s.name), t.repeated ∧ s.repeated := by
    intro t ht
    obtain ⟨hmem, hname⟩ := List.mem_filter.mp ht
    exact hcompatible t hmem (of_decide_eq_true hname)
  obtain ⟨n, hadd, hn⟩ := addSection_eq hentries hnode hrepeated
  -- Only the node at the name of the section has changed.
  refine ⟨_, hadd, nodup_keys_put h.nodup, fun key => ?_⟩
  rw [lookup_put, List.filter_append]
  by_cases hkey : key = s.name
  · subst hkey
    simp [lookup_eq_none_of_notMem hroot, hn]
  · simp [hkey, Ne.symm hkey, h.lookup_eq]

/-- **All sections are put in their places,** one after the other. -/
theorem Built.foldlM_addSection (h : Built root done nodes) (sections : List Section)
    (hentries : ∀ s ∈ sections, (s.entries.map Prod.fst).Nodup)
    (hroot : ∀ s ∈ sections, s.name ∉ root.map Prod.fst)
    (hcompatible : (done ++ sections).Pairwise Section.Compatible) :
    ∃ nodes', (sections.map fun s => (s.header, s.entries.map entryAssignment)).foldlM
      Document.addSection nodes = some nodes' ∧ Built root (done ++ sections) nodes' := by
  -- On the sections that are left; the invariant is about those before them.
  induction sections generalizing done nodes with
  | nil => exact ⟨nodes, rfl, by rwa [List.append_nil]⟩
  | cons s sections ih =>
    obtain ⟨hs, hentries⟩ := List.forall_mem_cons.mp hentries
    obtain ⟨hsroot, hroot⟩ := List.forall_mem_cons.mp hroot
    have hbefore : ∀ t ∈ done, t.Compatible s :=
      fun t ht => (List.pairwise_append.mp hcompatible).2.2 t ht s (List.mem_cons_self ..)
    obtain ⟨nodes', hadd, hbuilt⟩ := h.addSection hs hsroot hbefore
    obtain ⟨nodes'', hrest, hall⟩ := ih hbuilt hentries hroot (by simpa using hcompatible)
    refine ⟨nodes'', ?_, by simpa using hall⟩
    rw [List.map_cons, List.foldlM_cons, hadd]
    exact hrest

end Sections

/-! ### Documents -/

/-- **Every layout without repeated keys is assembled,** and every key of the root table stands for
    what the layout says. -/
theorem Layout.Distinct.exists_table {layout : Layout} (h : layout.Distinct) :
    ∃ table, layout.document.table? = some table ∧ (table.map Prod.fst).Nodup ∧
      ∀ key, table.lookup key = layout.value? key := by
  have hroot : assignAll [] (layout.root.map entryAssignment) = some (layout.root.map entryNode) :=
    assignAll_entries [] h.root
  have hbuilt : Built layout.root [] (layout.root.map entryNode) := by
    refine ⟨by simpa [entryNode, Function.comp_def] using h.root, fun key => ?_⟩
    rw [lookup_entries, List.filter_nil, sectionNode?, Option.or_none]
  obtain ⟨nodes, hsections, hall⟩ :=
    hbuilt.foldlM_addSection layout.sections h.entries h.apart h.compatible
  refine ⟨complete nodes, ?_, ?_, fun key => ?_⟩
  · rw [Document.table?, Layout.document]
    simp only [hroot, Option.bind_eq_bind, Option.bind_some, hsections]
    rfl
  · rw [keys_complete]
    exact hall.nodup
  · rw [lookup_complete, hall.lookup_eq, Layout.value?, sectionValue?_eq, List.nil_append]
    cases layout.root.lookup key <;> simp [Node.toValue]

/-- **The document of a text that writes a layout.** -/
theorem Layout.Writes.exists_table {layout : Layout} {text : String} (h : layout.Writes text)
    (hplain : layout.Plain) (hdistinct : layout.Distinct) :
    ∃ table, parse text = some table ∧ (table.map Prod.fst).Nodup ∧
      ∀ key, table.lookup key = layout.value? key := by
  rw [h.parse_eq hplain]
  exact hdistinct.exists_table

end ReleaseArtifacts.Toml
