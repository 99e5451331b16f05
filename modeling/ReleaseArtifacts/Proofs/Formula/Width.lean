import ReleaseArtifacts.Proofs.Formula.Rendering
import ReleaseArtifacts.Proofs.Profile.RoundTrip
import ReleaseArtifacts.Proofs.Template.Stopping

namespace ReleaseArtifacts.Formula

/-!
# Columns that are too wide

The column of the commands is as wide as the longest name of a launcher, and the rules of a profile
bound no name.

* `columnWidth_le_iff` — the column is as narrow as the names are short.
* `rendered_of_wide` — a column that cannot be filled ends the whole run.
* `rendered_accepted` — which of the profiles that are accepted are rendered.
* `accepted_aborts` — not all of them are.
-/

open Template (Expr Scope Statement Stop Stops Value evalAll_cons eval_path follow path
  widestPadding)

variable {p : Profile} {r : Release} {s : Scope} {l : Launcher}

/-! ### The width of the column -/

theorem foldl_max_le_iff {widths : List Nat} {start n : Nat} :
    widths.foldl max start ≤ n ↔ start ≤ n ∧ ∀ w ∈ widths, w ≤ n := by
  induction widths generalizing start with
  | nil => simp
  | cons w widths ih => rw [List.foldl_cons, ih, List.forall_mem_cons, max_le_iff, and_assoc]

theorem columnWidth_le_iff {n : Nat} :
    p.columnWidth ≤ n + Profile.columnGap ↔ ∀ l ∈ p.launchers, Text.byteWidth l.name ≤ n := by
  rw [Profile.columnWidth, Nat.add_le_add_iff_right, Profile.longestName, foldl_max_le_iff]
  simp

/-! ### Stopping -/

/-- A number beyond the machine words is no width. -/
theorem takeWidth_of_le {n : Nat} (h : 2 ^ 64 ≤ n) (rest : List Value) :
    ∃ reason, Template.takeWidth (.number n :: rest) = .error reason := by
  have hbeyond : ¬ ((0 : Int) ≤ n ∧ (n : Int) < Int.pow 2 64) := by
    have hbound : ((2 ^ 64 : Nat) : Int) = Int.pow 2 64 := by decide
    omega
  simp only [Template.takeWidth, Value.integer?, if_neg hbeyond]
  exact ⟨_, rfl⟩

theorem padded_of_lt {t : String} {n : Nat} (h : widestPadding < n) :
    Template.padded t n = .error (.paddingTooWide n) := if_neg (Nat.not_le_of_lt h)

/-- `ljust` refuses a width that is too great. -/
theorem applyFilter_ljust_wide (t : String) {n : Nat} (hwide : widestPadding < n) :
    ∃ reason, Template.applyFilter "ljust" [.text t, .number n] = .error reason ∧
      (n < 2 ^ 64 → reason = .paddingTooWide n) := by
  by_cases hfits : n < 2 ^ 64
  · refine ⟨.paddingTooWide n, ?_, fun _ => rfl⟩
    rw [applyFilter_ljust (takeWidth_natCast hfits []), padded_of_lt hwide]
  · obtain ⟨reason, hreason⟩ := takeWidth_of_le (Nat.le_of_not_lt hfits) []
    refine ⟨reason, ?_, fun h => absurd h hfits⟩
    rw [applyFilter_ljust_eq, hreason, error_bind]

/-- The template stops at the first launcher of the list of commands. -/
theorem template_stops (h : Shows p r s) (hsome : p.launchers ≠ [])
    (hwide : widestPadding < p.columnWidth) :
    ∃ stop, Stops s templateStatements stop ∧
      (p.columnWidth < 2 ^ 64 → stop.reason = .paddingTooWide p.columnWidth) := by
  obtain ⟨l, launchers, hlaunchers⟩ := List.exists_cons_of_ne_nil hsome
  obtain ⟨reason, hfilter, hreason⟩ := applyFilter_ljust_wide l.name hwide
  have hcolumn (s' : Scope) (hs : Shows p r s') (hl : s'.find "launcher" = launcherValue l)
      (line : Nat) : (Expr.filter "ljust" (path 56 "launcher" ["name"])
        [path 56 "name_width" []]).eval s' line = .error ⟨56, reason⟩ :=
    Template.eval_filter_error (eval_launcher hl rfl)
      (evalAll_cons (eval_path (congrArg some hs.width)) rfl) hfilter
  -- What comes before the list of commands does not depend on the width.
  have hloop : Stops s (each 55 "launcher" "launchers" commandStatements :: tailStatements)
      ⟨56, reason⟩ := by
    have hlist : follow (profileValue p) ["launchers"] =
        some (.list ((l :: launchers).map launcherValue)) := by
      rw [← hlaunchers]
      rfl
    refine Stops.loop (h.eval_formula hlist) fun s' hl hs => ?_
    exact .labelled _ (hcolumn s' (h.sameBut (by decide) hs) hl 56)
  refine ⟨⟨56, reason⟩, ?_, hreason⟩
  rw [templateStatements_eq]
  exact hloop.append (before_prints h)

/-- A template whose statements stop breaks down. -/
theorem formula_of_stops {statements : List Statement} {stop : Stop}
    (h : Stops (Scope.ofGlobals (globals p r)) statements stop) :
    (Renderer.mk statements).formula p r = .error (breakdown stop) := by
  have hrun : Statement.runAll (Scope.ofGlobals (globals p r)) statements = .error stop := h
  rw [Renderer.formula, Renderer.render, Template.render, hrun, Except.map, Except.mapError]

/-- **A column that cannot be filled breaks the rendering down.**  As long as its width fits a
    machine word, the whole run is given up. -/
theorem rendered_of_wide (r : Release) (hsome : p.launchers ≠ [])
    (hwide : widestPadding < p.columnWidth) :
    ∃ b, rendered p r = .error b ∧ (p.columnWidth < 2 ^ 64 → b = .aborted) := by
  obtain ⟨stop, hstops, hreason⟩ := template_stops (Shows.ofGlobals p r) hsome hwide
  refine ⟨breakdown stop, ?_, fun hfits => ?_⟩
  · rw [rendered, packageRenderer_eq, ok_bind]
    exact formula_of_stops hstops
  · rw [breakdown, hreason hfits]

/-! ### Accepted profiles -/

/-- **Which accepted profiles are rendered.**  A profile that a text holds is rendered exactly if no
    launcher has a name of more than 65532 bytes; the text is then its formula, and the whole run is
    given up if not, for all lengths that fit a machine word. -/
theorem rendered_accepted {text : String} (h : Profile.parse text = .ok p) (r : Release) :
    ((∃ out, rendered p r = .ok out) ↔ ∀ l ∈ p.launchers, Text.byteWidth l.name ≤ 65532) ∧
    (∀ out, rendered p r = .ok out → out = formulaText p r) ∧
    ((∃ l ∈ p.launchers, 65532 < Text.byteWidth l.name) → p.columnWidth < 2 ^ 64 →
      rendered p r = .error .aborted) := by
  have hsome : p.launchers ≠ [] := (Profile.valid_of_parse h).launchers
  have hnarrow : p.columnWidth ≤ widestPadding ↔
      ∀ l ∈ p.launchers, Text.byteWidth l.name ≤ 65532 := columnWidth_le_iff
  by_cases hwidth : p.columnWidth ≤ widestPadding
  · have hrendered := rendered_of_width p r hwidth
    have hall := hnarrow.mp hwidth
    refine ⟨⟨fun _ => hall, fun _ => ⟨_, hrendered⟩⟩, fun out hout => ?_, ?_⟩
    · exact (Except.ok.inj (hrendered.symm.trans hout)).symm
    · rintro ⟨l, hl, hlong⟩
      exact absurd (hall l hl) (Nat.not_le_of_lt hlong)
  · obtain ⟨b, hb, haborted⟩ := rendered_of_wide r hsome (Nat.lt_of_not_le hwidth)
    have hnone : ∀ out, rendered p r ≠ .ok out := by simp [hb]
    refine ⟨⟨fun ⟨out, hout⟩ => absurd hout (hnone out), fun hall => ?_⟩,
      fun out hout => absurd hout (hnone out), fun _ hfits => ?_⟩
    · exact absurd (hnarrow.mpr hall) hwidth
    · rw [hb, haborted hfits]

theorem rendered_accepted_application :
    Profile.parse Profile.packageText = .ok Profile.application ∧
    ((∃ out, rendered Profile.application braceRelease = .ok out) ↔
      ∀ l ∈ Profile.application.launchers, Text.byteWidth l.name ≤ 65532) :=
  ⟨Profile.parse_packageText, (rendered_accepted Profile.parse_packageText braceRelease).1⟩

/-! ### An accepted profile that is not rendered -/

/-- A package with one launcher, of this name. -/
def named (name : String) : Profile where
  className := "Box"
  desc := ""
  homepage := ""
  license := ""
  head := ⟨"", ""⟩
  buildDependencies := []
  binaries := ["box"]
  runtime := ⟨"", "", ""⟩
  launchers := [⟨name, "box", "", false⟩]
  test := ⟨"", ""⟩

/-- The text of such a package. -/
def namedText (name : String) : String :=
  "class_name = \"Box\"\n" ++ "desc = \"\"\n" ++ "homepage = \"\"\n" ++ "license = \"\"\n" ++
  "build_dependencies = []\n" ++ "binaries = [\"box\"]\n" ++
  "[head]\n" ++ "url = \"\"\n" ++ "branch = \"\"\n" ++
  "[runtime]\n" ++ "home_dir = \"\"\n" ++ "db_env = \"\"\n" ++ "db_file = \"\"\n" ++
  "[test]\n" ++ "command = \"\"\n" ++ "expect = \"\"\n" ++
  "[[launchers]]\n" ++ "name = \"" ++ name ++ "\"\n" ++ "binary = \"box\"\n" ++
  "summary = \"\"\n" ++ "pass_db = false\n"

theorem named_valid (name : String) : (named name).Valid := by
  constructor <;> simp [named]

theorem namedText_writes {name : String} (h : Toml.Quotes name ('"' :: (name.toList ++ ['"']))) :
    Toml.Layout.Writes ⟨(named name).rootEntries,
      (named name).tableSections ++ (named name).launcherSections⟩ (namedText name) := by
  have hclass : Toml.Quotes "Box" ['"', 'B', 'o', 'x', '"'] := .plain (by simp)
  have hbox : Toml.Quotes "box" ['"', 'b', 'o', 'x', '"'] := .plain (by simp)
  have hempty : Toml.Writes (.string "") ['"', '"'] := .string (.plain (by simp))
  have hroot : Toml.WritesEntries (named name).rootEntries _ :=
    .cons (.string hclass) <| .cons hempty <| .cons hempty <| .cons hempty <|
    .cons (.strings .nil) <| .cons (.strings (.cons hbox .nil)) .nil
  have hsections : Toml.WritesSections
      ((named name).tableSections ++ (named name).launcherSections) _ :=
    .cons (.cons hempty <| .cons hempty .nil) <|
    .cons (.cons hempty <| .cons hempty <| .cons hempty .nil) <|
    .cons (.cons hempty <| .cons hempty .nil) <|
    .cons (.cons (.string h) <| .cons (.string hbox) <| .cons hempty <| .cons (.flag false) .nil)
      .nil
  refine .intro hroot hsections ?_
  delta namedText
  simp only [String.toList_append, List.append_assoc, List.cons_append, List.nil_append]
  simp [Toml.Section.heading, Toml.flagWord, List.intercalate]

theorem parse_namedText {name : String} (h : Toml.Quotes name ('"' :: (name.toList ++ ['"']))) :
    Profile.parse (namedText name) = .ok (named name) := by
  rw [(Profile.arranges_self (named name)).parse_eq (namedText_writes h), Profile.checked,
    (Profile.defect?_eq_none_iff _).mpr (named_valid name)]

theorem columnWidth_named (name : String) :
    (named name).columnWidth = Text.byteWidth name + 3 := by
  simp [Profile.columnWidth, Profile.longestName, Profile.columnGap, named]

/-- A name of one letter, so many times. -/
def letters (n : Nat) : String := String.ofList (List.replicate n 'a')

theorem quotes_letters (n : Nat) :
    Toml.Quotes (letters n) ('"' :: ((letters n).toList ++ ['"'])) := by
  refine .plain fun c hc => ?_
  rw [letters, String.toList_ofList] at hc
  rw [List.eq_of_mem_replicate hc]
  decide

theorem byteWidth_letters (n : Nat) : Text.byteWidth (letters n) = n := by
  rw [Text.byteWidth, letters, String.utf8ByteSize_ofList]
  induction n with
  | zero => rfl
  | succ n ih => rw [List.replicate_succ, String.utf8Len_cons, ih]; rfl

/-- A name of more than 65532 letters is too long. -/
theorem rendered_letters {n : Nat} (hlong : 65532 < n) (hfits : n + 3 < 2 ^ 64) (r : Release) :
    rendered (named (letters n)) r = .error .aborted := by
  have hwidth : (named (letters n)).columnWidth = n + 3 := by
    rw [columnWidth_named, byteWidth_letters]
  have hwide : widestPadding < (named (letters n)).columnWidth := by
    rw [hwidth, widestPadding]
    omega
  obtain ⟨b, hb, haborted⟩ := rendered_of_wide r (named_valid (letters n)).launchers hwide
  rw [hb, haborted (hwidth ▸ hfits)]

/-- **Not every accepted profile is rendered.**  A name of 65533 letters keeps the rules, and the
    rendering gives the whole run up for every release. -/
theorem accepted_aborts :
    Profile.parse (namedText (letters 65533)) = .ok (named (letters 65533)) ∧
      ∀ r, rendered (named (letters 65533)) r = .error .aborted :=
  ⟨parse_namedText (quotes_letters 65533), rendered_letters (by decide) (by decide)⟩

end ReleaseArtifacts.Formula
