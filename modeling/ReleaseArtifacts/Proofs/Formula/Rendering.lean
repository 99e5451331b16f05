import ReleaseArtifacts.Proofs.Formula.Statements
import ReleaseArtifacts.Proofs.Profile.Package

namespace ReleaseArtifacts.Formula

/-!
# Rendering the formula template

The template of the library prints the lines of the formula, for every package and release.

* `Shows p r s` — in the scope `s` the names of the template stand for the package and the release.
  It holds at the start, and in the rounds of every loop of the template.
* `head_prints`, …, `tail_prints` — what each group of statements prints.
* `rendered p r` — the template of the library, read and rendered.
-/

open Template (Expr Prints Scope Statement Value evalAll_cons eval_call eval_filter eval_path
  follow path widestPadding)
open Text (unlines)

/-- The template of the library, read and rendered. -/
def rendered (p : Profile) (r : Release) : Except Breakdown String := do
  let renderer ← packageRenderer
  renderer.formula p r

/-! ### The names of the template -/

/-- The names of the template stand for the package and the release, and its functions are not
    hidden by a value. -/
structure Shows (p : Profile) (r : Release) (s : Scope) : Prop where
  formula : s.find "formula" = profileValue p
  release : s.find "release" = releaseValue r
  invocation : s.find "build_invocation" = textsValue p.buildInvocation
  width : s.find "name_width" = .number p.columnWidth
  shVar : s.find "sh_var" = .undefined
  shDefault : s.find "sh_default" = .undefined

/-- The names that the template takes from outside. -/
def freeNames : List String :=
  ["formula", "release", "build_invocation", "name_width", "sh_var", "sh_default", "loop"]

namespace Shows

variable {p : Profile} {r : Release} {s s' : Scope} {line n : Nat} {fields : List String}

theorem ofGlobals (p : Profile) (r : Release) : Shows p r (Scope.ofGlobals (globals p r)) :=
  ⟨rfl, rfl, rfl, rfl, rfl, rfl⟩

/-- A loop whose target is a name of its own changes none of the names from outside. -/
theorem sameBut {target : String} (h : Shows p r s) (htarget : target ∉ freeNames)
    (hs : s.SameBut target s') : Shows p r s' := by
  have hkeeps : ∀ x ∈ freeNames, x ≠ "loop" → s'.find x = s.find x :=
    fun x hx => hs x (ne_of_mem_of_not_mem hx htarget)
  refine ⟨?_, ?_, ?_, ?_, ?_, ?_⟩
  · exact (hkeeps _ (by decide) (by decide)).trans h.formula
  · exact (hkeeps _ (by decide) (by decide)).trans h.release
  · exact (hkeeps _ (by decide) (by decide)).trans h.invocation
  · exact (hkeeps _ (by decide) (by decide)).trans h.width
  · exact (hkeeps _ (by decide) (by decide)).trans h.shVar
  · exact (hkeeps _ (by decide) (by decide)).trans h.shDefault

/-- A field of the package. -/
theorem eval_formula {v : Value} (h : Shows p r s) (hv : follow (profileValue p) fields = some v) :
    (path n "formula" fields).eval s line = .ok v :=
  eval_path (by rw [h.formula, hv])

/-- A field of the release. -/
theorem eval_release {v : Value} (h : Shows p r s) (hv : follow (releaseValue r) fields = some v) :
    (path n "release" fields).eval s line = .ok v :=
  eval_path (by rw [h.release, hv])

end Shows

variable {p : Profile} {r : Release} {s : Scope}

/-! ### The head of the class -/

theorem head_prints (h : Shows p r s) : Prints s headStatements (unlines (headLines p r)) := by
  have hprints : Prints s headStatements _ :=
    .labelled _ (h.eval_formula rfl) <| .labelled _ (h.eval_formula rfl) <|
    .labelled _ (h.eval_formula rfl) <| .labelled _ (h.eval_release rfl) <|
    .labelled _ (h.eval_release rfl) <| .labelled _ (h.eval_release rfl) <|
    .labelled _ (h.eval_formula rfl) <| .labelled _ (h.eval_formula rfl) <|
    .labelled _ (h.eval_formula rfl) <| .text _ <| .nil s
  refine hprints.of_eq ?_
  unfold headLines titleLines releaseLines urlLine checksumLine versionLine sourceLines headLine
  simp only [Text.unlines_cons, Text.unlines_nil, Text.unlines_append, String.append_assoc,
    String.empty_append, String.append_empty]

theorem dependency_prints {d : String} (hd : s.find "dependency" = .text d) :
    Prints s dependencyStatements (unlines [dependencyLine d]) := by
  have hprints : Prints s dependencyStatements _ :=
    .labelled _ (eval_path (congrArg some hd)) <| .text _ <| .nil s
  refine hprints.of_eq ?_
  unfold dependencyLine
  simp only [Text.unlines_cons, Text.unlines_nil, String.append_assoc, String.append_empty]

/-! ### Installation -/

/-- The texts of a list are what `ruby_args` takes. -/
theorem applyFilter_ruby_args (texts : List String) :
    Template.applyFilter "ruby_args" [textsValue texts] = .ok (.text (argumentList texts)) := by
  have hshown : (texts.map Value.text).map Value.shown = texts := by
    rw [List.map_map]
    exact List.map_id texts
  show Except.ok (Value.text (argumentList ((texts.map Value.text).map Value.shown))) = _
  rw [hshown]

theorem build_prints (h : Shows p r s) : Prints s buildStatements (unlines (buildLines p)) := by
  have hprints : Prints s buildStatements _ :=
    .labelled _ (eval_filter (eval_path (congrArg some h.invocation)) rfl
      (applyFilter_ruby_args _)) <| .text _ <| .nil s
  refine hprints.of_eq ?_
  unfold buildLines systemLine
  simp only [Text.unlines_cons, Text.unlines_nil, String.append_assoc,
    String.empty_append, String.append_empty]

theorem binary_prints {b : String} (hb : s.find "binary" = .text b) :
    Prints s binaryStatements (unlines [binaryLine b]) := by
  have hprints : Prints s binaryStatements _ :=
    .labelled _ (eval_path (congrArg some hb)) <| .text _ <| .nil s
  refine hprints.of_eq ?_
  unfold binaryLine
  simp only [Text.unlines_cons, Text.unlines_nil, String.append_assoc, String.append_empty]

/-! ### Launchers -/

variable {l : Launcher}

/-- A field of the launcher that a loop is at. -/
theorem eval_launcher {v : Value} {n line : Nat} {fields : List String}
    (hl : s.find "launcher" = launcherValue l) (hv : follow (launcherValue l) fields = some v) :
    (path n "launcher" fields).eval s line = .ok v :=
  eval_path (by rw [hl, hv])

/-- The file that the database variable falls back to is found in the data directory. -/
theorem eval_database (h : Shows p r s) {line : Nat} :
    databaseExpr.eval s line =
      .ok (.text
        (expansionOr p.runtime.dbEnv ("$\x7bAPP_ROOT\x7d/data/" ++ p.runtime.dbFile))) := by
  have hfile : ∀ line, (path 41 "formula" ["runtime", "db_file"]).eval s line =
      .ok (.text p.runtime.dbFile) := fun _ => h.eval_formula rfl
  have hfallback : ∀ line, (Expr.binary .join
      (.literal 41 (.text "$\x7bAPP_ROOT\x7d/data/"))
      (path 41 "formula" ["runtime", "db_file"])).eval s line =
        .ok (.text ("$\x7bAPP_ROOT\x7d/data/" ++ p.runtime.dbFile)) := by
    intro line
    rw [Expr.eval, Expr.eval, ok_bind, hfile]
    rfl
  exact eval_call (evalAll_cons (h.eval_formula rfl) (evalAll_cons (hfallback _) rfl))
    h.shDefault rfl

/-- The value of the database variable. -/
theorem eval_variable (h : Shows p r s) {line : Nat} :
    (Expr.call "sh_var" [path 43 "formula" ["runtime", "db_env"]]).eval s line =
      .ok (.text (expansion p.runtime.dbEnv)) :=
  eval_call (evalAll_cons (h.eval_formula rfl) rfl) h.shVar rfl

/-- The database is passed exactly to the launchers that ask for it. -/
theorem pass_prints (h : Shows p r s) (l : Launcher) :
    Prints s (if l.passDb then passStatements else []) (databaseArguments p.runtime l) := by
  rw [databaseArguments]
  split
  · have hprints : Prints s passStatements _ := .labelled _ (eval_variable h) <| .text _ <| .nil s
    refine hprints.of_eq ?_
    simp only [expansion, String.append_assoc, String.append_empty]
  · exact .nil s

theorem script_prints (h : Shows p r s) (hl : s.find "launcher" = launcherValue l) :
    Prints s scriptStatements (unlines (scriptLines p.runtime l)) := by
  have hprints : Prints s scriptStatements _ :=
    .labelled _ (eval_launcher hl rfl) <| .labelled _ (h.eval_formula rfl) <|
    .labelled _ (h.eval_formula rfl) <| .labelled _ (eval_database h) <|
    .labelled _ (eval_launcher hl rfl) <| .text _ <|
    .branch (eval_launcher hl rfl) (pass_prints h l) <| .text _ <| .nil s
  refine hprints.of_eq ?_
  unfold scriptLines openingLine bootstrapLines rootLine databaseLine execLine expansionOr
  simp only [Text.unlines_cons, Text.unlines_nil, Text.unlines_append, String.append_assoc,
    String.empty_append, String.append_empty]

theorem mode_prints (hl : s.find "launcher" = launcherValue l) :
    Prints s modeStatements (unlines [modeLine l]) := by
  have hprints : Prints s modeStatements _ :=
    .labelled _ (eval_launcher hl rfl) <| .text _ <| .nil s
  refine hprints.of_eq ?_
  unfold modeLine
  simp only [Text.unlines_cons, Text.unlines_nil, String.append_assoc, String.append_empty]

/-! ### Caveats and test -/

/-- The width of a column is a number that `ljust` takes, if it fits a machine word. -/
theorem takeWidth_natCast {n : Nat} (h : n < 2 ^ 64) (rest : List Value) :
    Template.takeWidth (.number n :: rest) = .ok (n, rest) := by
  have hfits : (0 : Int) ≤ n ∧ (n : Int) < Int.pow 2 64 := by
    have hbound : ((2 ^ 64 : Nat) : Int) = Int.pow 2 64 := by decide
    omega
  simp only [Template.takeWidth, Value.integer?, if_pos hfits, Int.toNat_natCast]

theorem padded_of_le {t : String} {n : Nat} (h : n ≤ widestPadding) :
    Template.padded t n = .ok (.text (Text.padRight t n)) := if_pos h

/-- `ljust` takes a width, and pads a text to it. -/
theorem applyFilter_ljust_eq (t : String) (v : Value) :
    Template.applyFilter "ljust" [.text t, v] = Template.takeWidth [v] >>= fun taken =>
      Template.takeNone taken.2 >>= fun _ => Template.padded t taken.1 := rfl

/-- `ljust` pads a text, once its width has been taken. -/
theorem applyFilter_ljust {t : String} {v : Value} {n : Nat}
    (hv : Template.takeWidth [v] = .ok (n, [])) :
    Template.applyFilter "ljust" [.text t, v] = Template.padded t n := by
  rw [applyFilter_ljust_eq, hv]
  rfl

/-- The name of a launcher fills the column. -/
theorem eval_column (h : Shows p r s) (hl : s.find "launcher" = launcherValue l)
    (hwidth : p.columnWidth ≤ widestPadding) {line : Nat} :
    (Expr.filter "ljust" (path 56 "launcher" ["name"])
        [path 56 "name_width" []]).eval s line =
      .ok (.text (Text.padRight l.name p.columnWidth)) := by
  refine eval_filter (eval_launcher hl rfl)
    (evalAll_cons (eval_path (congrArg some h.width)) rfl) ?_
  have hfits : p.columnWidth < 2 ^ 64 := Nat.lt_of_le_of_lt hwidth (by decide)
  rw [applyFilter_ljust (takeWidth_natCast hfits []), padded_of_le hwidth]

theorem command_prints (h : Shows p r s) (hl : s.find "launcher" = launcherValue l)
    (hwidth : p.columnWidth ≤ widestPadding) :
    Prints s commandStatements (unlines [commandLine p.columnWidth l]) := by
  have hprints : Prints s commandStatements _ :=
    .labelled _ (eval_column h hl hwidth) <| .labelled _ (eval_launcher hl rfl) <|
    .text _ <| .nil s
  refine hprints.of_eq ?_
  unfold commandLine
  simp only [Text.unlines_cons, Text.unlines_nil, String.append_assoc, String.append_empty]

theorem tail_prints (h : Shows p r s) : Prints s tailStatements (unlines (tailLines p)) := by
  have hprints : Prints s tailStatements _ :=
    .labelled _ (h.eval_formula rfl) <| .labelled _ (h.eval_formula rfl) <|
    .labelled _ (h.eval_formula rfl) <| .text _ <| .nil s
  refine hprints.of_eq ?_
  unfold tailLines noteLines testLines
  simp only [Text.unlines_cons, Text.unlines_nil, Text.unlines_append, String.append_assoc,
    String.empty_append, String.append_empty]

/-! ### The whole template -/

/-- A loop over a list of the package prints the lines of each item, in order. -/
theorem each_prints {α : Type} (value : α → Value) (linesOf : α → List String) {items : List α}
    {line : Nat} {target list out : String} {body rest : List Statement} (h : Shows p r s)
    (htarget : target ∉ freeNames)
    (hlist : follow (profileValue p) [list] = some (.list (items.map value)))
    (hbody : ∀ s', Shows p r s' → ∀ x, s'.find target = value x →
      Prints s' body (unlines (linesOf x)))
    (hrest : Prints s rest out) :
    Prints s (each line target list body :: rest) (unlines (items.flatMap linesOf) ++ out) := by
  rw [Text.unlines_flatMap]
  refine .loop (h.eval_formula hlist) (fun s' x _ hx hs => ?_) hrest
  exact hbody s' (h.sameBut htarget hs) x hx

/-- The statements up to the list of commands. -/
def beforeStatements : List Statement :=
  headStatements ++ (each 10 "dependency" "build_dependencies" dependencyStatements ::
    (buildStatements ++ [each 17 "binary" "binaries" binaryStatements,
      .text (unlines moduleLines), each 25 "launcher" "launchers" scriptStatements,
      .text "", each 47 "launcher" "launchers" modeStatements, .text (unlines caveatsLines)]))

theorem templateStatements_eq : templateStatements =
    beforeStatements ++ (each 55 "launcher" "launchers" commandStatements :: tailStatements) := rfl

/-- The lines up to the list of commands. -/
def beforeLines (p : Profile) (r : Release) : List String :=
  headLines p r ++ (p.buildDependencies.map dependencyLine ++ (buildLines p ++
    (p.binaries.map binaryLine ++ (moduleLines ++ (p.launchers.flatMap (scriptLines p.runtime) ++
      (p.launchers.map modeLine ++ caveatsLines))))))

/-- Everything up to the list of commands is printed, however wide their column is. -/
theorem before_prints (h : Shows p r s) :
    Prints s beforeStatements (unlines (beforeLines p r)) := by
  have hprints : Prints s beforeStatements _ :=
    .append (head_prints h) <|
    each_prints .text (fun d => [dependencyLine d]) h (by decide) rfl
      (fun _ _ _ => dependency_prints) <|
    .append (build_prints h) <|
    each_prints .text (fun b => [binaryLine b]) h (by decide) rfl (fun _ _ _ => binary_prints) <|
    .text _ <|
    each_prints launcherValue (scriptLines p.runtime) h (by decide) rfl
      (fun _ h _ => script_prints h) <|
    .text _ <|
    each_prints launcherValue (fun l => [modeLine l]) h (by decide) rfl
      (fun _ _ _ => mode_prints) <|
    .text _ <| .nil s
  refine hprints.of_eq ?_
  unfold beforeLines
  -- The loops with one line for each item print it by `List.flatMap` as the others do.
  simp only [Text.unlines_append, List.map_eq_flatMap, String.empty_append, String.append_empty]

/-- **The template prints the formula.**  Every group of statements prints its group of lines. -/
theorem template_prints (h : Shows p r s) (hwidth : p.columnWidth ≤ widestPadding) :
    Prints s templateStatements (formulaText p r) := by
  have hcommands :
      Prints s (each 55 "launcher" "launchers" commandStatements :: tailStatements) _ :=
    each_prints launcherValue (fun l => [commandLine p.columnWidth l]) h (by decide) rfl
      (fun _ h _ hl => command_prints h hl hwidth) (tail_prints h)
  rw [templateStatements_eq]
  refine ((before_prints h).append hcommands).of_eq ?_
  unfold formulaText formulaLines bodyLines beforeLines
  simp only [Text.unlines_append, List.map_eq_flatMap, String.append_assoc]

/-- A template without malformed tags can be read. -/
theorem read_eq_ok {source : String} {statements : List Statement}
    (h : Statement.parse source = some statements) :
    Renderer.read source = .ok ⟨statements⟩ := by
  rw [Renderer.read, Renderer.ofTemplate?, h]
  rfl

/-- A template whose statements print a text renders to this text. -/
theorem formula_of_prints {statements : List Statement} {out : String}
    (h : Prints (Scope.ofGlobals (globals p r)) statements out) :
    (Renderer.mk statements).formula p r = .ok out := by
  have hrun : Statement.runAll (Scope.ofGlobals (globals p r)) statements =
      .ok (Scope.ofGlobals (globals p r), out) := h
  rw [Renderer.formula, Renderer.render, Template.render, hrun, Except.map, Except.mapError]

/-- The template of the library can be read. -/
theorem packageRenderer_eq : packageRenderer = .ok ⟨templateStatements⟩ :=
  read_eq_ok parse_templateText

/-- Rendering gives the text of the formula's lines, for every column that can be filled. -/
theorem rendered_of_width (p : Profile) (r : Release) (hwidth : p.columnWidth ≤ widestPadding) :
    rendered p r = .ok (formulaText p r) := by
  rw [rendered, packageRenderer_eq, ok_bind]
  exact formula_of_prints (template_prints (Shows.ofGlobals p r) hwidth)

/-- **Rendering refines the formula.**  The template of the library can be read, and rendering it
    never breaks down for a package whose column can be filled: the text is the formula of the
    package and the release, character by character. -/
theorem packageRenderer_formula (p : Profile) (r : Release) (hwidth : p.columnWidth ≤ 65535) :
    ∃ renderer, packageRenderer = .ok renderer ∧
      renderer.formula p r = .ok (formulaText p r) := by
  refine ⟨⟨templateStatements⟩, packageRenderer_eq, ?_⟩
  have hrendered := rendered_of_width p r hwidth
  rwa [rendered, packageRenderer_eq, ok_bind] at hrendered

/-- The first release of the application. -/
def firstRelease : Release :=
  ⟨"0.1.0", "https://github.com/truemagic-coder/butterfly-bot/archive/v0.1.0.tar.gz", "0a1b2c"⟩

/-- A release whose texts look like tags of a template. -/
def braceRelease : Release := ⟨"\x7b\x7b 1 \x7d\x7d", "\x7b% endfor %\x7d", "#\x7bbin\x7d"⟩

theorem packageRenderer_formula_application : Profile.application.columnWidth ≤ 65535 ∧
    ∃ renderer, packageRenderer = .ok renderer ∧
      renderer.formula Profile.application braceRelease =
        .ok (formulaText Profile.application braceRelease) :=
  ⟨by decide, packageRenderer_formula Profile.application braceRelease (by decide)⟩

end ReleaseArtifacts.Formula
