import ReleaseArtifacts.Profile.Read
import ReleaseArtifacts.Proofs.Formula.Openings
import ReleaseArtifacts.Proofs.Formula.Rendering
import ReleaseArtifacts.Proofs.Formula.Texts
import ReleaseArtifacts.Proofs.Profile.Package
import ReleaseArtifacts.Proofs.Text.Positions

namespace ReleaseArtifacts.Formula

/-!
# Complete formulas

The loops of the template and the rules of a profile fit together: whatever the texts are, every
launcher has its script, the scripts and the caveats are closed one after the other, and what a
script starts was built and installed.

* `frontLines`, `backLines` — the lines before the first script and after the last one.
* `formulaLines_split` — the lines around the script of a launcher.
* `script_block` — the script of the `i`-th launcher is the `i`-th block.
* `Complete p ls` — all of it about the lines `ls`; `complete_formulaLines` shows it for the lines
  of a formula, and `rendered_complete` for the rendered text.
-/

open Text (Apart Block Foreign Lacks Opened between between_split closes countP_flatMap_one lines
  opens_append opens_of_startsWith position_lt position_of_split starting starting_append
  starting_between starting_blank starting_cons startsWith_append)

variable (p : Profile) (r : Release) (l : Launcher)

/-! ### The lines around the scripts -/

/-- The lines before the scripts. -/
def frontLines : List String :=
  headLines p r ++ (p.buildDependencies.map dependencyLine ++ (buildLines p ++
    (p.binaries.map binaryLine ++ moduleLines)))

/-- The lines after the scripts, to the end of the text. -/
def backLines : List String :=
  p.launchers.map modeLine ++ (caveatsLines ++ (p.launchers.map (commandLine p.columnWidth) ++
    (tailLines p ++ [""])))

theorem formulaLines_eq : formulaLines p r ++ [""] =
    frontLines p r ++ (p.launchers.flatMap (scriptLines p.runtime) ++ backLines p) := by
  simp only [formulaLines, bodyLines, frontLines, backLines, List.append_assoc]

def headOpenings : List String := titleOpenings ++ (releaseOpenings ++ sourceOpenings)

theorem opened_headLines : Opened headOpenings (headLines p r) :=
  (opened_titleLines p).append <| (opened_releaseLines r).append (opened_sourceLines p)

def frontOpenings : List String :=
  headOpenings ++ ([dependencyOpening] ++ (buildOpenings ++ ([binaryOpening] ++ moduleOpenings)))

theorem opened_frontLines : Opened frontOpenings (frontLines p r) :=
  (opened_headLines p r).append <| (opened_dependencies p).append <| (opened_buildLines p).append <|
    (opened_binaries p).append opened_moduleLines

def backOpenings : List String :=
  [modeOpening] ++ (caveatsOpenings ++ ([commandOpening] ++ ((noteOpenings ++
    closingLine :: testOpenings) ++ ["\n"])))

theorem opened_backLines : Opened backOpenings (backLines p) := by
  have htail : Opened (noteOpenings ++ closingLine :: testOpenings) (tailLines p) :=
    (opened_noteLines p).append <| .cons (by decide) (opened_testLines p)
  have hblank : Opened ["\n"] [""] := by decide
  exact (opened_modes p).append <| opened_caveatsLines.append <|
    (opened_commands p p.columnWidth).append <| htail.append hblank

/-- The lines of a script between the one that opens it and the one that closes it. -/
def scriptBody (t : RuntimeLayout) : List String := bootstrapLines t ++ [execLine t l]

theorem scriptLines_eq (t : RuntimeLayout) :
    scriptLines t l = openingLine l :: (scriptBody l t ++ closingLine :: [""]) := by
  rw [scriptLines, scriptBody, List.append_assoc, List.singleton_append]

theorem opened_scriptBody (t : RuntimeLayout) :
    Opened (bootstrapOpenings ++ [execOpening]) (scriptBody l t) :=
  (opened_bootstrapLines t).append <|
    .cons (opens_of_startsWith (execLine_startsWith l t)) <| .nil _

/-- **The lines around a script.**  Before it stand the front and the scripts before it. -/
theorem formulaLines_split {before after : List Launcher}
    (hsplit : p.launchers = before ++ l :: after) :
    formulaLines p r ++ [""] =
      (frontLines p r ++ before.flatMap (scriptLines p.runtime)) ++
        openingLine l :: (scriptBody l p.runtime ++
          closingLine :: ("" :: (after.flatMap (scriptLines p.runtime) ++ backLines p))) := by
  rw [formulaLines_eq]
  simp only [hsplit, List.flatMap_append, List.flatMap_cons, scriptLines_eq, List.append_assoc,
    List.cons_append, List.nil_append]

/-! ### Lines that open and close heredocs -/

/-- The line opens the script of a launcher. -/
def opensScript (line : String) : Bool := line.startsWith launcherOpening

theorem countP_opensScript_eq_zero {os ls : List String} (h : Opened os ls)
    (hapart : ∀ o ∈ os, Apart o launcherOpening) : ls.countP opensScript = 0 := by
  rw [List.countP_eq_length_filter]
  exact congrArg List.length (h.starting_eq_nil hapart)

theorem not_closes_openingLine : closes (openingLine l) = false :=
  (opens_of_startsWith (openingLine_startsWith l)).not_closes (by decide)

theorem countP_opensScript_script (t : RuntimeLayout) :
    (scriptLines t l).countP opensScript = 1 := by
  rw [List.countP_eq_length_filter]
  exact congrArg List.length (starting_launcherOpening_script l t)

theorem countP_closes_script (t : RuntimeLayout) : (scriptLines t l).countP closes = 1 := by
  have hbody : (scriptBody l t).countP closes = 0 :=
    (opened_scriptBody l t).countP_closes (by decide)
  have hend : [closingLine, ""].countP closes = 1 := by decide
  rw [scriptLines_eq, List.countP_cons_of_neg (by simp [not_closes_openingLine]),
    List.countP_append, hbody, hend]

/-- A launcher in the caveats does not close them: its summary is in parentheses. -/
theorem not_closes_commandLine (width : Nat) : closes (commandLine width l) = false := by
  have hmem : '(' ∈ (commandLine width l).toList := by
    unfold commandLine
    simp [String.toList_append]
  exact Text.not_closes_of_mem hmem (by decide)

theorem countP_closes_front : (frontLines p r).countP closes = 0 :=
  (opened_frontLines p r).countP_closes (by decide)

/-- **The script of a launcher is a block.**  It is the one with the number of the launcher, and its
    lines are those of its body. -/
theorem script_block {before after : List Launcher} (hsplit : p.launchers = before ++ l :: after) :
    ∃ o c, Block opensScript closes (formulaLines p r ++ [""]) before.length o c ∧
      between o c (formulaLines p r ++ [""]) = scriptBody l p.runtime := by
  have hbody := opened_scriptBody l p.runtime
  -- In front of it every script has one line of each kind, and no other line is of either.
  have hopens : (frontLines p r ++ before.flatMap (scriptLines p.runtime)).countP opensScript =
      before.length := by
    rw [List.countP_append, countP_opensScript_eq_zero (opened_frontLines p r) (by decide),
      countP_flatMap_one fun x => countP_opensScript_script x p.runtime, Nat.zero_add]
  have hcloses : (frontLines p r ++ before.flatMap (scriptLines p.runtime)).countP closes =
      before.length := by
    rw [List.countP_append, countP_closes_front,
      countP_flatMap_one fun x => countP_closes_script x p.runtime, Nat.zero_add]
  have hbodyOpens : (scriptBody l p.runtime).countP opensScript = 0 :=
    countP_opensScript_eq_zero hbody (by decide)
  have hbodyCloses : (scriptBody l p.runtime).countP closes = 0 := hbody.countP_closes (by decide)
  rw [formulaLines_split p r l hsplit]
  refine ⟨_, _, ?_, between_split ..⟩
  exact Block.of_split hopens hcloses (openingLine_startsWith l) (not_closes_openingLine l)
    (by decide) (by decide) hbodyOpens hbodyCloses

/-- One binary is started in a script. -/
theorem starting_execOpening_body (t : RuntimeLayout) :
    starting execOpening (scriptBody l t) = [execLine t l] := by
  exact starting_between (execLine_startsWith l t) (opened_bootstrapLines t) (.nil []) (by decide)

/-! ### The caveats -/

/-- The lines before the one that opens the caveats. -/
def beforeCaveats : List String :=
  frontLines p r ++ (p.launchers.flatMap (scriptLines p.runtime) ++ (p.launchers.map modeLine ++
    ["  end", "", "  def caveats"]))

/-- The lines of the caveats. -/
def caveatsBody : List String :=
  "      Installed commands:" :: (p.launchers.map (commandLine p.columnWidth) ++ noteLines p)

theorem formulaLines_eq_caveats :
    formulaLines p r ++ [""] =
      beforeCaveats p r ++
        caveatsLine :: (caveatsBody p ++ closingLine :: (testLines p ++ [""])) := by
  simp only [formulaLines_eq, backLines, beforeCaveats, caveatsBody, caveatsLines, tailLines,
    List.append_assoc, List.cons_append, List.nil_append]

theorem countP_closes_beforeCaveats :
    (beforeCaveats p r).countP closes = p.launchers.length := by
  have hmodes : (p.launchers.map modeLine).countP closes = 0 :=
    (opened_modes p).countP_closes (by decide)
  have hend : ["  end", "", "  def caveats"].countP closes = 0 := by decide
  simp only [beforeCaveats, List.countP_append, countP_closes_front, hmodes, hend,
    countP_flatMap_one fun x => countP_closes_script x p.runtime, Nat.zero_add, Nat.add_zero]

theorem countP_closes_caveatsBody : (caveatsBody p).countP closes = 0 := by
  have hcommands : (p.launchers.map (commandLine p.columnWidth)).countP closes = 0 := by
    rw [List.countP_eq_zero]
    intro line hline
    obtain ⟨l, -, rfl⟩ := List.mem_map.mp hline
    simp [not_closes_commandLine]
  have hnotes : (noteLines p).countP closes = 0 := (opened_noteLines p).countP_closes (by decide)
  rw [caveatsBody, List.countP_cons_of_neg (by decide), List.countP_append, hcommands, hnotes]

theorem countP_closes_end : (testLines p ++ [""]).countP closes = 0 := by
  have htest : (testLines p).countP closes = 0 := (opened_testLines p).countP_closes (by decide)
  have hblank : [""].countP closes = 0 := by decide
  rw [List.countP_append, htest, hblank]

/-- The caveats are opened at `k`, after the first `n` lines that close a heredoc, and the next one
    closes them at `c`. -/
structure Caveats (ls : List String) (n k c : Nat) : Prop where
  opened : ls[k]? = some caveatsLine
  closed : (ls.findIdxs closes)[n]? = some c
  order : k < c
  after : ∀ i < n, ∀ c', (ls.findIdxs closes)[i]? = some c' → c' < k

/-- **The last line that closes a heredoc closes the caveats.** -/
theorem caveats_formulaLines :
    ∃ k c, Caveats (formulaLines p r ++ [""]) p.launchers.length k c := by
  -- The line that opens the caveats is not counted, since more than the word is on it.
  have hcount : (beforeCaveats p r ++ caveatsLine :: caveatsBody p).countP closes =
      p.launchers.length := by
    rw [List.countP_append, List.countP_cons_of_neg (by decide), countP_closes_beforeCaveats,
      countP_closes_caveatsBody, Nat.add_zero]
  have hsplit : formulaLines p r ++ [""] =
      (beforeCaveats p r ++ caveatsLine :: caveatsBody p) ++
        closingLine :: (testLines p ++ [""]) := by
    rw [formulaLines_eq_caveats, List.append_assoc, List.cons_append]
  refine ⟨(beforeCaveats p r).length, (beforeCaveats p r ++ caveatsLine :: caveatsBody p).length,
    ?_, ?_, ?_, ?_⟩
  · rw [formulaLines_eq_caveats, List.getElem?_append_right (Nat.le_refl _), Nat.sub_self]
    rfl
  · rw [hsplit, ← hcount]
    exact position_of_split (by decide) _ _
  · rw [List.length_append, List.length_cons]
    omega
  · intro i hi c' hc'
    rw [formulaLines_eq_caveats] at hc'
    exact position_lt (by rwa [countP_closes_beforeCaveats]) hc'

theorem length_closes :
    ((formulaLines p r ++ [""]).findIdxs closes).length = p.launchers.length + 1 := by
  rw [List.length_findIdxs, formulaLines_eq_caveats, List.countP_append,
    List.countP_cons_of_neg (by decide), List.countP_append, List.countP_cons_of_pos (by decide),
    countP_closes_beforeCaveats, countP_closes_caveatsBody, countP_closes_end, Nat.zero_add]

/-! ### Binaries -/

def systemOpening : String := "    system "

/-- One line builds the binaries. -/
theorem starting_systemOpening :
    starting systemOpening (formulaLines p r ++ [""]) = [systemLine p] := by
  have hstart : Opened ["\n", "  def install"] ["", "  def install"] := by decide
  have hblank : Opened ["\n"] [""] := by decide
  have hbefore := (opened_headLines p r).append <| (opened_dependencies p).append hstart
  have hafter := hblank.append <| (opened_binaries p).append <| opened_moduleLines.append <|
    (opened_scripts p).append (opened_backLines p)
  have hsplit : formulaLines p r ++ [""] =
      (headLines p r ++ (p.buildDependencies.map dependencyLine ++ ["", "  def install"])) ++
        systemLine p :: ([""] ++ (p.binaries.map binaryLine ++ (moduleLines ++
          (p.launchers.flatMap (scriptLines p.runtime) ++ backLines p)))) := by
    simp only [formulaLines_eq, frontLines, buildLines, List.append_assoc, List.cons_append,
      List.nil_append]
  rw [hsplit]
  exact starting_between (startsWith_append ..) hbefore hafter (by decide)

/-- The call that builds the binaries names each of them. -/
theorem systemLine_names {b : String} (hb : b ∈ p.binaries) :
    ∃ before after, systemLine p = before ++ ("\"--bin\", \"" ++ b ++ "\"") ++ after := by
  obtain ⟨xs, ys, hsplit⟩ := List.append_of_mem hb
  have hinvocation : p.buildInvocation =
      (["cargo", "build", "--release", "--locked"] ++ xs.flatMap fun b => ["--bin", b]) ++
        (["--bin", b] ++ ys.flatMap fun b => ["--bin", b]) := by
    rw [Profile.buildInvocation, hsplit, List.flatMap_append, List.flatMap_cons, List.append_assoc]
  obtain ⟨before, after, hinfix⟩ := argumentList_infix
    (["cargo", "build", "--release", "--locked"] ++ xs.flatMap fun b => ["--bin", b])
    (ys.flatMap fun b => ["--bin", b]) (List.cons_ne_nil "--bin" [b])
  refine ⟨"    system " ++ before, after, ?_⟩
  have hmarks : "\"--bin\", \"" = "\"" ++ "--bin" ++ "\", \"" := by decide
  rw [systemLine, hinvocation, hinfix, argumentList_pair, hmarks]
  simp only [String.append_assoc]

theorem binaryLine_mem {b : String} (hb : b ∈ p.binaries) :
    binaryLine b ∈ formulaLines p r ++ [""] := by
  have hmem : binaryLine b ∈ starting binaryOpening (formulaLines p r) := by
    rw [starting_binaryOpening]
    exact List.mem_map_of_mem hb
  exact List.mem_append_left _ (List.mem_of_mem_filter hmem)

/-! ### Complete formulas -/

/-- Every launcher has its script, all heredocs are closed in turn, and every binary that a script
    starts was built and installed. -/
structure Complete (p : Profile) (ls : List String) : Prop where
  /-- the scripts stand in the order of the launchers -/
  openings : starting launcherOpening ls = p.launchers.map openingLine
  /-- as many lines as there are launchers, and one more, close a heredoc -/
  closings : (ls.findIdxs closes).length = p.launchers.length + 1
  /-- the script of a launcher is closed before the next one, and starts the binary once -/
  scripts : ∀ (i : Nat) (l : Launcher), p.launchers[i]? = some l →
    ∃ o c, Block opensScript closes ls i o c ∧
      starting execOpening (between o c ls) = [execLine p.runtime l]
  /-- the last line that closes a heredoc closes the caveats -/
  caveats : ∃ k c, Caveats ls p.launchers.length k c
  /-- the launchers are made executable in their order -/
  modes : starting modeOpening ls = p.launchers.map modeLine
  /-- no other binaries are started than those of the launchers -/
  execs : starting execOpening ls = p.launchers.map (execLine p.runtime)
  /-- what a launcher starts is installed -/
  installed : ∀ l ∈ p.launchers, binaryLine l.binary ∈ ls
  /-- what a launcher starts is built, all of it by one call -/
  built : ∃ line, starting systemOpening ls = [line] ∧ ∀ l ∈ p.launchers,
    ∃ before after, line = before ++ ("\"--bin\", \"" ++ l.binary ++ "\"") ++ after

theorem complete_formulaLines (hvalid : p.Valid) : Complete p (formulaLines p r ++ [""]) where
  openings := by
    rw [starting_append, starting_launcherOpening, starting_blank (by decide), List.append_nil]
  closings := length_closes p r
  scripts := by
    intro i l hl
    obtain ⟨hi, hget⟩ := List.getElem?_eq_some_iff.mp hl
    -- The launchers before this one are those whose scripts stand before its own.
    have hsplit : p.launchers = p.launchers.take i ++ l :: p.launchers.drop (i + 1) := by
      rw [← hget, List.getElem_cons_drop, List.take_append_drop]
    have hlength : (p.launchers.take i).length = i := List.length_take_of_le (Nat.le_of_lt hi)
    obtain ⟨o, c, hblock, hbetween⟩ := script_block p r l hsplit
    rw [hlength] at hblock
    refine ⟨o, c, hblock, ?_⟩
    rw [hbetween, starting_execOpening_body]
  caveats := caveats_formulaLines p r
  modes := by
    rw [starting_append, starting_modeOpening, starting_blank (by decide), List.append_nil]
  execs := by
    rw [starting_append, starting_execOpening, starting_blank (by decide), List.append_nil]
  installed := fun l hl => binaryLine_mem p r (hvalid.targets l hl)
  built := ⟨systemLine p, starting_systemOpening p r, fun l hl =>
    systemLine_names p (hvalid.targets l hl)⟩

/-- **Every formula is complete.**  The text that is rendered for a profile that was read, and for
    any release, has all that its launchers need, and each heredoc in it ends where it should. -/
theorem rendered_complete (source : String) (p : Profile) (r : Release)
    (hsource : Profile.parse source = .ok p) (hwidth : p.columnWidth ≤ 65535)
    (hp : ∀ t ∈ p.texts, Lacks '\n' t) (hr : ∀ t ∈ r.texts, Lacks '\n' t) :
    ∃ text, rendered p r = .ok text ∧ Complete p (lines text) := by
  refine ⟨formulaText p r, rendered_of_width p r hwidth, ?_⟩
  rw [lines_formulaText hp hr]
  exact complete_formulaLines p r (Profile.valid_of_parse hsource)

theorem rendered_complete_application :
    ∃ text, rendered Profile.application braceRelease = .ok text ∧
      Complete Profile.application (lines text) :=
  rendered_complete Profile.packageText Profile.application braceRelease Profile.parse_packageText
    (by decide) (by decide) (by decide)

end ReleaseArtifacts.Formula
