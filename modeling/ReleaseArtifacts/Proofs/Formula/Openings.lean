import ReleaseArtifacts.Proofs.Formula.Lines
import ReleaseArtifacts.Proofs.Text.Openings

namespace ReleaseArtifacts.Formula

/-!
# How the lines of a formula start

Every group of lines has its openings, whatever the texts in the package and the release are.  A
property that the openings decide is decided once and for all for the lines.

* `opened_titleLines`, …, `opened_testLines` — the openings of each group.
* `frameOpenings` — the openings of the lines that neither name the release nor stand once for each
  dependency, binary or launcher in the installation.
* `starting_formulaLines` — a text that is apart from them is looked for in those lines only.
* `starting_dependencyOpening`, …, `starting_exportOpening` — the lines that are found.
-/

open Text (Opens Opened Apart opens_append opens_of_startsWith startsWith_append starting
  starting_append starting_between starting_cons starting_flatMap starting_map)

variable (p : Profile) (r : Release) (l : Launcher)

/-! ### The head of the class -/

def titleOpenings : List String := ["class ", "  desc \"", "  homepage \""]

theorem opened_titleLines : Opened titleOpenings (titleLines p) := by
  simp only [titleLines, String.append_assoc]
  exact .cons (opens_append ..) <| .cons (opens_append ..) <| .cons (opens_append ..) <| .nil _

def urlOpening : String := "  url \""

def checksumOpening : String := "  sha256 \""

def versionOpening : String := "  version \""

theorem urlLine_startsWith (url : String) : (urlLine url).startsWith urlOpening = true := by
  unfold urlLine
  rw [String.append_assoc]
  exact startsWith_append ..

theorem checksumLine_startsWith (sha256 : String) :
    (checksumLine sha256).startsWith checksumOpening = true := by
  unfold checksumLine
  rw [String.append_assoc]
  exact startsWith_append ..

theorem versionLine_startsWith (version : String) :
    (versionLine version).startsWith versionOpening = true := by
  unfold versionLine
  rw [String.append_assoc]
  exact startsWith_append ..

def releaseOpenings : List String := [urlOpening, checksumOpening, versionOpening]

theorem opened_releaseLines : Opened releaseOpenings (releaseLines r) :=
  .cons (opens_of_startsWith (urlLine_startsWith r.url)) <|
    .cons (opens_of_startsWith (checksumLine_startsWith r.sha256)) <|
    .cons (opens_of_startsWith (versionLine_startsWith r.version)) <| .nil _

def sourceOpenings : List String := ["  license \"", "  head \"", "\n"]

theorem opened_sourceLines : Opened sourceOpenings (sourceLines p) := by
  unfold sourceLines headLine
  simp only [String.append_assoc]
  exact .cons (opens_append ..) <| .cons (opens_append ..) <| .cons (by decide) <| .nil _

def dependencyOpening : String := "  depends_on \""

theorem dependencyLine_startsWith (d : String) :
    (dependencyLine d).startsWith dependencyOpening = true := by
  unfold dependencyLine
  rw [String.append_assoc]
  exact startsWith_append ..

/-! ### Installation -/

def buildOpenings : List String := ["\n", "  def install", "    system ", "\n"]

theorem opened_buildLines : Opened buildOpenings (buildLines p) := by
  unfold buildLines systemLine
  exact .cons (by decide) <| .cons (by decide) <| .cons (opens_append ..) <|
    .cons (by decide) <| .nil _

def binaryOpening : String := "    libexec.install \"target/release/"

theorem binaryLine_startsWith (b : String) : (binaryLine b).startsWith binaryOpening = true := by
  unfold binaryLine
  rw [String.append_assoc]
  exact startsWith_append ..

def moduleOpenings : List String := ["\n", "    wasm_modules", "    odie", "    pkgshare"]

theorem opened_moduleLines : Opened moduleOpenings moduleLines := by decide

/-! ### Launchers -/

def launcherOpening : String := "    (bin/\""

theorem openingLine_startsWith : (openingLine l).startsWith launcherOpening = true := by
  unfold openingLine
  rw [String.append_assoc]
  exact startsWith_append ..

def execOpening : String := "      exec \""

theorem execLine_startsWith (t : RuntimeLayout) :
    (execLine t l).startsWith execOpening = true := by
  unfold execLine
  have hsplit : "      exec \"#\x7blibexec\x7d/" = execOpening ++ "#\x7blibexec\x7d/" := by decide
  simp only [hsplit, String.append_assoc]
  exact startsWith_append ..

def rootOpening : String := "      APP_ROOT=\"$\x7bHOME\x7d/"

def exportOpening : String := "      export "

def startOpenings : List String := ["      #!", "      set ", "\n"]

def linkOpenings : List String :=
  ["      mkdir", "\n", "      if ", "        rm", "      fi", "        ln", "      cd"]

def bootstrapOpenings : List String :=
  startOpenings ++ rootOpening :: (linkOpenings ++ [exportOpening, "\n"])

theorem opened_startLines : Opened startOpenings startLines := by decide

theorem opened_linkLines : Opened linkOpenings linkLines := by decide

theorem opens_rootLine (t : RuntimeLayout) : Opens rootOpening (rootLine t) := by
  unfold rootLine
  rw [String.append_assoc]
  exact opens_append ..

theorem databaseLine_startsWith (t : RuntimeLayout) :
    (databaseLine t).startsWith exportOpening = true := by
  unfold databaseLine
  simp only [String.append_assoc]
  exact startsWith_append ..

theorem opened_bootstrapLines (t : RuntimeLayout) : Opened bootstrapOpenings (bootstrapLines t) :=
  opened_startLines.append <| .cons (opens_rootLine t) <| opened_linkLines.append <|
    .cons (opens_of_startsWith (databaseLine_startsWith t)) <| .cons (by decide) <| .nil _

def scriptOpenings : List String :=
  launcherOpening :: (bootstrapOpenings ++ [execOpening, closingLine, "\n"])

theorem opened_scriptLines (t : RuntimeLayout) : Opened scriptOpenings (scriptLines t l) :=
  .cons (opens_of_startsWith (openingLine_startsWith l)) <| (opened_bootstrapLines t).append <|
    .cons (opens_of_startsWith (execLine_startsWith l t)) <| .cons (by decide) <|
    .cons (by decide) <| .nil _

def modeOpening : String := "    chmod 0755, bin/\""

theorem modeLine_startsWith : (modeLine l).startsWith modeOpening = true := by
  unfold modeLine
  rw [String.append_assoc]
  exact startsWith_append ..

/-! ### Caveats and test -/

def caveatsOpenings : List String := ["  end", "\n", "  def", "    <<~EOS", "      Installed"]

theorem opened_caveatsLines : Opened caveatsOpenings caveatsLines := by decide

def commandOpening : String := "        "

theorem opens_commandLine (width : Nat) : Opens commandOpening (commandLine width l) := by
  unfold commandLine
  simp only [String.append_assoc]
  exact opens_append ..

def noteOpenings : List String :=
  ["\n", "      Runtime", "        ~/", "\n", "      WASM", "        #"]

theorem opened_noteLines : Opened noteOpenings (noteLines p) := by
  unfold noteLines
  exact .cons (by decide) <| .cons (by decide) <| .cons (opens_append ..) <|
    .cons (by decide) <| .cons (by decide) <| .cons (by decide) <| .nil _

def testOpenings : List String :=
  ["  end", "\n", "  test", "    output = shell_output(\"#\x7bbin\x7d/", "    assert_match \"",
    "  end", "end"]

theorem opened_testLines : Opened testOpenings (testLines p) := by
  unfold testLines
  simp only [String.append_assoc]
  exact .cons (by decide) <| .cons (by decide) <| .cons (by decide) <| .cons (opens_append ..) <|
    .cons (opens_append ..) <| .cons (by decide) <| .cons (by decide) <| .nil _

/-! ### Looking for lines -/

theorem opened_dependencies : Opened [dependencyOpening] (p.buildDependencies.map dependencyLine) :=
  .map (fun d => opens_of_startsWith (dependencyLine_startsWith d)) _

theorem opened_binaries : Opened [binaryOpening] (p.binaries.map binaryLine) :=
  .map (fun b => opens_of_startsWith (binaryLine_startsWith b)) _

theorem opened_scripts :
    Opened scriptOpenings (p.launchers.flatMap (scriptLines p.runtime)) :=
  .flatMap (fun l => opened_scriptLines l p.runtime) _

theorem opened_modes : Opened [modeOpening] (p.launchers.map modeLine) :=
  .map (fun l => opens_of_startsWith (modeLine_startsWith l)) _

theorem opened_commands (width : Nat) :
    Opened [commandOpening] (p.launchers.map (commandLine width)) :=
  .map (fun l => opens_commandLine l width) _

/-- The openings of the lines that neither name the release nor stand once for each dependency,
    binary or launcher in the installation. -/
def frameOpenings : List String :=
  titleOpenings ++ (sourceOpenings ++ (buildOpenings ++ (moduleOpenings ++ (caveatsOpenings ++
    ([commandOpening] ++ (noteOpenings ++ closingLine :: testOpenings))))))

/-- A text that is apart from the openings of the frame is looked for inside the frame only. -/
theorem starting_formulaLines {start : String} (hframe : ∀ o ∈ frameOpenings, Apart o start) :
    starting start (formulaLines p r) =
      starting start (releaseLines r) ++ (starting start (p.buildDependencies.map dependencyLine) ++
        (starting start (p.binaries.map binaryLine) ++
          (starting start (p.launchers.flatMap (scriptLines p.runtime)) ++
            starting start (p.launchers.map modeLine)))) := by
  simp only [frameOpenings, List.forall_mem_append] at hframe
  obtain ⟨htitle, hsource, hbuild, hmodule, hcaveats, hcommand, hnote, htest⟩ := hframe
  -- Each group of the frame is dropped, because none of its openings goes with `start`.
  have hclosing : Opened (closingLine :: testOpenings) (closingLine :: testLines p) :=
    .cons (by decide) (opened_testLines p)
  simp only [formulaLines, headLines, bodyLines, tailLines, starting_append,
    (opened_titleLines p).starting_eq_nil htitle, (opened_sourceLines p).starting_eq_nil hsource,
    (opened_buildLines p).starting_eq_nil hbuild, opened_moduleLines.starting_eq_nil hmodule,
    opened_caveatsLines.starting_eq_nil hcaveats,
    (opened_commands p p.columnWidth).starting_eq_nil hcommand,
    (opened_noteLines p).starting_eq_nil hnote, hclosing.starting_eq_nil htest, List.nil_append,
    List.append_nil]

/-- The lines that name the release are found in one place. -/
theorem starting_of_release {start : String} (hframe : ∀ o ∈ frameOpenings, Apart o start)
    (hothers : ∀ o ∈ dependencyOpening :: binaryOpening :: modeOpening :: scriptOpenings,
      Apart o start) :
    starting start (formulaLines p r) = starting start (releaseLines r) := by
  simp only [List.forall_mem_cons] at hothers
  obtain ⟨hdependency, hbinary, hmode, hscript⟩ := hothers
  rw [starting_formulaLines p r hframe,
    (opened_dependencies p).starting_eq_nil (by simpa using hdependency),
    (opened_binaries p).starting_eq_nil (by simpa using hbinary),
    (opened_scripts p).starting_eq_nil hscript,
    (opened_modes p).starting_eq_nil (by simpa using hmode)]
  simp only [List.append_nil]

/-- The dependencies stand in their order. -/
theorem starting_dependencyOpening :
    starting dependencyOpening (formulaLines p r) = p.buildDependencies.map dependencyLine := by
  rw [starting_formulaLines p r (by decide), starting_map dependencyLine_startsWith,
    (opened_releaseLines r).starting_eq_nil (by decide),
    (opened_binaries p).starting_eq_nil (by decide),
    (opened_scripts p).starting_eq_nil (by decide),
    (opened_modes p).starting_eq_nil (by decide)]
  simp only [List.nil_append, List.append_nil]

/-- The binaries stand in their order. -/
theorem starting_binaryOpening :
    starting binaryOpening (formulaLines p r) = p.binaries.map binaryLine := by
  rw [starting_formulaLines p r (by decide), starting_map binaryLine_startsWith,
    (opened_releaseLines r).starting_eq_nil (by decide),
    (opened_dependencies p).starting_eq_nil (by decide),
    (opened_scripts p).starting_eq_nil (by decide),
    (opened_modes p).starting_eq_nil (by decide)]
  simp only [List.nil_append, List.append_nil]

/-- The launchers stand in their order where they are made executable. -/
theorem starting_modeOpening :
    starting modeOpening (formulaLines p r) = p.launchers.map modeLine := by
  rw [starting_formulaLines p r (by decide), starting_map modeLine_startsWith,
    (opened_releaseLines r).starting_eq_nil (by decide),
    (opened_dependencies p).starting_eq_nil (by decide),
    (opened_binaries p).starting_eq_nil (by decide),
    (opened_scripts p).starting_eq_nil (by decide)]
  simp only [List.nil_append]

/-- Lines that only scripts have, one in each, stand in the order of the launchers. -/
theorem starting_of_script {start : String} {f : Launcher → String}
    (hframe : ∀ o ∈ frameOpenings, Apart o start)
    (hothers : ∀ o ∈ dependencyOpening :: binaryOpening :: modeOpening :: releaseOpenings,
      Apart o start)
    (hscript : ∀ l, starting start (scriptLines p.runtime l) = [f l]) :
    starting start (formulaLines p r) = p.launchers.map f := by
  simp only [List.forall_mem_cons] at hothers
  obtain ⟨hdependency, hbinary, hmode, hrelease⟩ := hothers
  rw [starting_formulaLines p r hframe, starting_flatMap hscript,
    (opened_releaseLines r).starting_eq_nil hrelease,
    (opened_dependencies p).starting_eq_nil (by simpa using hdependency),
    (opened_binaries p).starting_eq_nil (by simpa using hbinary),
    (opened_modes p).starting_eq_nil (by simpa using hmode)]
  simp only [List.nil_append, List.append_nil]

theorem starting_launcherOpening_script (t : RuntimeLayout) :
    starting launcherOpening (scriptLines t l) = [openingLine l] := by
  have hrest : Opened (bootstrapOpenings ++ [execOpening, closingLine, "\n"])
      (bootstrapLines t ++ [execLine t l, closingLine, ""]) :=
    (opened_bootstrapLines t).append <| .cons (opens_of_startsWith (execLine_startsWith l t)) <|
      .cons (by decide) <| .cons (by decide) <| .nil _
  rw [scriptLines, starting_cons (openingLine_startsWith l),
    hrest.starting_eq_nil (by decide)]

theorem starting_execOpening_script (t : RuntimeLayout) :
    starting execOpening (scriptLines t l) = [execLine t l] := by
  have hfront : Opened (launcherOpening :: bootstrapOpenings) (openingLine l :: bootstrapLines t) :=
    .cons (opens_of_startsWith (openingLine_startsWith l)) (opened_bootstrapLines t)
  have hback : Opened [closingLine, "\n"] [closingLine, ""] := by decide
  rw [scriptLines, ← List.cons_append]
  exact starting_between (execLine_startsWith l t) hfront hback (by decide)

theorem starting_exportOpening_script (t : RuntimeLayout) :
    starting exportOpening (scriptLines t l) = [databaseLine t] := by
  have hfront : Opened (launcherOpening :: (startOpenings ++ rootOpening :: linkOpenings))
      (openingLine l :: (startLines ++ rootLine t :: linkLines)) :=
    .cons (opens_of_startsWith (openingLine_startsWith l)) <| opened_startLines.append <|
      .cons (opens_rootLine t) opened_linkLines
  have hback : Opened ["\n", execOpening, closingLine, "\n"] ["", execLine t l, closingLine, ""] :=
    .cons (by decide) <| .cons (opens_of_startsWith (execLine_startsWith l t)) <|
      .cons (by decide) <| .cons (by decide) <| .nil _
  have hlines : scriptLines t l = (openingLine l :: (startLines ++ rootLine t :: linkLines)) ++
      databaseLine t :: ["", execLine t l, closingLine, ""] := by
    simp only [scriptLines, bootstrapLines, List.append_assoc, List.cons_append, List.nil_append]
  rw [hlines]
  exact starting_between (databaseLine_startsWith t) hfront hback (by decide)

/-- The scripts stand in the order of the launchers. -/
theorem starting_launcherOpening :
    starting launcherOpening (formulaLines p r) = p.launchers.map openingLine :=
  starting_of_script p r (by decide) (by decide) fun l =>
    starting_launcherOpening_script l p.runtime

/-- The binaries are started in the order of the launchers. -/
theorem starting_execOpening :
    starting execOpening (formulaLines p r) = p.launchers.map (execLine p.runtime) :=
  starting_of_script p r (by decide) (by decide) fun l =>
    starting_execOpening_script l p.runtime

/-- The database is named in the script of every launcher. -/
theorem starting_exportOpening :
    starting exportOpening (formulaLines p r) =
      p.launchers.map fun _ => databaseLine p.runtime :=
  starting_of_script p r (by decide) (by decide) fun l =>
    starting_exportOpening_script l p.runtime

end ReleaseArtifacts.Formula
