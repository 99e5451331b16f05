import ReleaseArtifacts.CommandLine.Run
import ReleaseArtifacts.Proofs.CommandLine.Selection
import ReleaseArtifacts.Proofs.Formula.Agreement

namespace ReleaseArtifacts.CommandLine

/-!
# What command lines do

* `runIn` — what is seen of a run, and the file system that it leaves.
* `OnlyInforms`, `WritesFormula`, `GeneratesIcons` — the three kinds of runs.
* `run_contract` — every command line has a run of the one kind that it selects.
* `run_settings` — for the formula command it depends on what its settings say, and on nothing else.
-/

variable {arguments : List String} {version url sha256 output : String} {s : FileSystem}
  {request : Request}

/-- What is seen of a run, and the file system that it leaves. -/
def runIn (arguments : List String) (s : FileSystem) : Outcome × FileSystem :=
  Id.run (StateT.run (run arguments) s)

/-! ### Kinds of runs -/

/-- Nothing is done.  A text is shown that was asked for, with exit code 0, or there is a usage
    error, with exit code 2. -/
def OnlyInforms (s : FileSystem) (ran : Outcome × FileSystem) : Prop :=
  ran.2 = s ∧ ∃ text, ran.1 = ⟨0, text, ""⟩ ∨ ran.1 = ⟨2, "", text⟩

/-- The formula of a release is written in the current folder.  Its path is shown, with exit code 0,
    or the fault, with exit code 1. -/
def WritesFormula (version url sha256 output : String) (s : FileSystem)
    (ran : Outcome × FileSystem) : Prop :=
  let result := runOn (Formula.writeHere ⟨version, url, sha256⟩ output) s
  ran.2 = result.2 ∧
    ((∃ path, result.1 = .ok path ∧ ran.1 = ⟨0, "✅ Wrote formula to " ++ path ++ "\n", ""⟩) ∨
      ∃ fault, result.1 = .error (.fault fault) ∧
        ran.1 = ⟨1, "", "Error: " ++ fault.message ++ "\n"⟩)

/-- The icons are generated in the current folder.  How many there are is shown, with exit code 0,
    or the fault, with exit code 1. -/
def GeneratesIcons (s : FileSystem) (ran : Outcome × FileSystem) : Prop :=
  let result := runOn generateIconsHere s
  ran.2 = result.2 ∧
    ((∃ report, result.1 = .ok report ∧
        ran.1 = ⟨0, "✅ Generated " ++ toString report.outputs.length ++ " icon sizes from " ++
          report.source ++ "\n", ""⟩) ∨
      ∃ fault, result.1 = .error fault ∧ ran.1 = ⟨1, "", "Error: " ++ fault.message ++ "\n"⟩)

/-! ### Requests -/

theorem runIn_of_error {fault : UsageFault} (h : parse arguments = .error fault) (s : FileSystem) :
    runIn arguments s = (.misuse fault, s) := by
  rw [runIn, run, h]
  rfl

theorem runIn_of_ok (h : parse arguments = .ok request) (s : FileSystem) :
    runIn arguments s = Id.run (StateT.run (perform request) s) := by
  rw [runIn, run, h]

/-- A usage error is shown. -/
theorem onlyInforms_of_error {fault : UsageFault} (h : parse arguments = .error fault)
    (s : FileSystem) : (runIn arguments s).1.code = 2 ∧ OnlyInforms s (runIn arguments s) := by
  rw [runIn_of_error h]
  cases fault <;> exact ⟨rfl, rfl, _, .inr rfl⟩

/-- Help and the version are shown. -/
theorem onlyInforms_of_informs (h : parse arguments = .ok request) (hrequest : request.Informs)
    (s : FileSystem) : OnlyInforms s (runIn arguments s) := by
  rw [runIn_of_ok h]
  cases request with
  | help page => exact ⟨rfl, _, .inl rfl⟩
  | version => exact ⟨rfl, _, .inl rfl⟩
  | formula => exact hrequest.elim
  | icons => exact hrequest.elim

/-- Writing the formula of a release never gives up the run. -/
theorem writeHere_ne_aborted (release : Release) (output : String) (s : FileSystem) :
    (runOn (Formula.writeHere release output) s).1 ≠ .error .aborted := by
  rw [Formula.runOn_writeHere]
  cases s.currentPath with
  | error cause => simp
  | ok here =>
    dsimp only
    rw [Formula.runOn_write]
    split <;> simp

/-- **The formula command** writes the formula that it selects. -/
theorem writesFormula_of_selects (h : SelectsFormula arguments version url sha256 output)
    (s : FileSystem) : WritesFormula version url sha256 output s (runIn arguments s) := by
  rw [runIn_of_ok (parse_of_selectsFormula h)]
  have hrun : Id.run (StateT.run (perform (.formula version url sha256 output)) s) =
      (.ofFormula (runOn (Formula.writeHere ⟨version, url, sha256⟩ output) s).1,
        (runOn (Formula.writeHere ⟨version, url, sha256⟩ output) s).2) := rfl
  rw [hrun]
  refine ⟨rfl, ?_⟩
  have hgoes := writeHere_ne_aborted ⟨version, url, sha256⟩ output s
  cases hresult : (runOn (Formula.writeHere ⟨version, url, sha256⟩ output) s).1 with
  | ok path => exact .inl ⟨path, rfl, rfl⟩
  | error breakdown =>
    cases breakdown with
    | fault cause => exact .inr ⟨cause, rfl, rfl⟩
    | aborted => exact absurd hresult hgoes

/-- **The icons command** generates the icons. -/
theorem generatesIcons_of_selects (h : SelectsIcons arguments) (s : FileSystem) :
    GeneratesIcons s (runIn arguments s) := by
  rw [runIn_of_ok (parse_of_selectsIcons h)]
  have hrun : Id.run (StateT.run (perform .icons) s) =
      (.ofIcons (runOn generateIconsHere s).1, (runOn generateIconsHere s).2) := rfl
  rw [hrun]
  refine ⟨rfl, ?_⟩
  cases (runOn generateIconsHere s).1 with
  | ok report => exact .inl ⟨report, rfl, rfl⟩
  | error fault => exact .inr ⟨fault, rfl, rfl⟩

/-- The two commands are not selected together. -/
theorem not_selectsIcons (h : SelectsFormula arguments version url sha256 output) :
    ¬ SelectsIcons arguments := fun hicons =>
  absurd ((parse_of_selectsFormula h).symm.trans (parse_of_selectsIcons hicons)) (by simp)

/-- Where no command is selected nothing is done. -/
theorem onlyInforms_of_not_selects
    (hformula : ∀ version url sha256 output, ¬ SelectsFormula arguments version url sha256 output)
    (hicons : ¬ SelectsIcons arguments) (s : FileSystem) : OnlyInforms s (runIn arguments s) := by
  cases hparse : parse arguments with
  | error fault => exact (onlyInforms_of_error hparse s).2
  | ok request =>
    rcases parse_eq_ok hparse with hrequest | ⟨-, hselects⟩ | ⟨_, _, _, _, -, hselects⟩
    · exact onlyInforms_of_informs hparse hrequest s
    · exact absurd hselects hicons
    · exact absurd hselects (hformula _ _ _ _)

/-! ### The contract -/

/-- **The contract of the command line.**  Whatever the arguments are, exactly one of these holds:
    they select no command, and nothing is done but that a text is shown; or they select the formula
    command with its four values, and the run is that of writing this formula; or they select the
    icons command, and the run is that of generating the icons.  So nothing happens to the files
    unless the arguments are a name of a command with exactly what has to be said about it. -/
theorem run_contract (arguments : List String) (s : FileSystem) :
    let ran := runIn arguments s
    let informs := (∀ version url sha256 output,
      ¬ SelectsFormula arguments version url sha256 output) ∧ ¬ SelectsIcons arguments ∧
      OnlyInforms s ran
    let writes := ∃ version url sha256 output,
      SelectsFormula arguments version url sha256 output ∧
      WritesFormula version url sha256 output s ran
    let generates := SelectsIcons arguments ∧ GeneratesIcons s ran
    ((informs ∧ ¬ writes ∧ ¬ generates) ∨ (¬ informs ∧ writes ∧ ¬ generates) ∨
      (¬ informs ∧ ¬ writes ∧ generates)) ∧
    (ran.2 = s ∨ SelectsIcons arguments ∨
      ∃ version url sha256 output, SelectsFormula arguments version url sha256 output) := by
  dsimp only
  -- No command line selects both commands, and where it selects none nothing is done.
  by_cases hicons : SelectsIcons arguments
  · refine ⟨.inr (.inr ⟨fun h => h.2.1 hicons, ?_, hicons, generatesIcons_of_selects hicons s⟩),
      .inr (.inl hicons)⟩
    rintro ⟨_, _, _, _, hformula, -⟩
    exact not_selectsIcons hformula hicons
  · by_cases hformula : ∃ version url sha256 output,
      SelectsFormula arguments version url sha256 output
    · obtain ⟨version, url, sha256, output, hselects⟩ := hformula
      exact ⟨.inr (.inl ⟨fun h => h.1 _ _ _ _ hselects,
        ⟨version, url, sha256, output, hselects, writesFormula_of_selects hselects s⟩,
        fun h => hicons h.1⟩), .inr (.inr ⟨version, url, sha256, output, hselects⟩)⟩
    · have hnone : ∀ version url sha256 output,
          ¬ SelectsFormula arguments version url sha256 output :=
        fun version url sha256 output h => hformula ⟨version, url, sha256, output, h⟩
      have hinforms := onlyInforms_of_not_selects hnone hicons s
      refine ⟨.inl ⟨⟨hnone, hicons, hinforms⟩, ?_, fun h => hicons h.1⟩, .inl hinforms.1⟩
      rintro ⟨_, _, _, _, hselects, -⟩
      exact hnone _ _ _ _ hselects

/-! ### Settings of the formula command -/

/-- Writing a formula is no usage error. -/
theorem WritesFormula.code_ne {ran : Outcome × FileSystem}
    (h : WritesFormula version url sha256 output s ran) : ran.1.code ≠ 2 := by
  rcases h.2 with ⟨_, -, hran⟩ | ⟨_, -, hran⟩ <;> simp [hran]

/-- Settings that are not complete are a usage error. -/
theorem exists_usageFault {name : String} (hname : name ∈ Command.names .formula)
    {settings : List Setting} (h : ¬ Complete settings) :
    ∃ fault, parse (name :: settings.flatMap Setting.words) = .error fault := by
  have hrequest : parse (name :: settings.flatMap Setting.words) =
      (do formulaRequest (← collect [] settings)) := by
    have hread := parseFormula_settings settings (.inl rfl) [] none
    rw [List.append_nil] at hread
    rw [parse.eq_def]
    dsimp only
    rw [Command.ofName?_eq_some_iff.mpr hname]
    exact hread
  cases hparse : parse (name :: settings.flatMap Setting.words) with
  | error fault => exact ⟨fault, rfl⟩
  | ok request =>
    rw [hrequest] at hparse
    obtain ⟨version, url, sha256, output, hmeant, hne, -⟩ := request_of_settings_iff.mp hparse
    exact absurd (complete_iff_exists_values.mpr ⟨version, url, sha256, output, hmeant, hne⟩) h

/-- **Settings of the formula command**, in any order and notation, under any of their names: the
    command runs exactly if every option is set once and the output is named, and then the run is
    that of writing the formula of the four values as they are.  Otherwise it is a usage error, with
    exit code 2, and nothing is done. -/
theorem run_settings {name : String} (hname : name ∈ Command.names .formula)
    (settings : List Setting) (s : FileSystem) :
    let ran := runIn (name :: settings.flatMap Setting.words) s
    (Complete settings ↔ ∃ version url sha256 output, Says settings version url sha256 output ∧
      WritesFormula version url sha256 output s ran) ∧
    (¬ Complete settings ↔ ran.1.code = 2 ∧ ran.2 = s) := by
  dsimp only
  by_cases h : Complete settings
  · obtain ⟨version, url, sha256, output, hmeant, hne⟩ := complete_iff_exists_values.mp h
    have hselects : SelectsFormula (name :: settings.flatMap Setting.words) version url sha256
        output :=
      ⟨name, hname, settings, [], .inl rfl, by rw [List.append_nil], hmeant, hne⟩
    have hwrites := writesFormula_of_selects hselects s
    exact ⟨iff_of_true h ⟨version, url, sha256, output, hmeant, hwrites⟩,
      iff_of_false (not_not_intro h) fun hmisuse => hwrites.code_ne hmisuse.1⟩
  · obtain ⟨fault, hparse⟩ := exists_usageFault hname h
    obtain ⟨hcode, hinforms⟩ := onlyInforms_of_error hparse s
    refine ⟨iff_of_false h ?_, iff_of_true h ⟨hcode, hinforms.1⟩⟩
    rintro ⟨_, _, _, _, -, hwrites⟩
    exact hwrites.code_ne hcode

/-- Settings in another order and in both notations, with values that look like something else. -/
def specimenSettings : List Setting :=
  [⟨.output, "output", "=x.rb", true, by decide, nofun⟩,
    ⟨.sha256, "checksum", "a=b", false, by decide, by decide⟩,
    ⟨.version, "version", "--url", true, by decide, nofun⟩,
    ⟨.url, "url", "formula", false, by decide, by decide⟩]

theorem run_settings_specimen :
    "f" ∈ Command.names .formula ∧ Complete specimenSettings ∧
      WritesFormula "--url" "formula" "a=b" "=x.rb" ⟨.empty, some []⟩
        (runIn ["f", "--output==x.rb", "--checksum", "a=b", "--version=--url", "--url", "formula"]
          ⟨.empty, some []⟩) := by
  have hwords : specimenSettings.flatMap Setting.words = ["--output==x.rb", "--checksum", "a=b",
      "--version=--url", "--url", "formula"] := by decide
  have hsaid : Says specimenSettings "--url" "formula" "a=b" "=x.rb" := by
    unfold Says
    decide
  have hname : "f" ∈ Command.names .formula := by decide
  have hcomplete := complete_iff_exists_values.mpr ⟨_, _, _, _, hsaid, by decide⟩
  obtain ⟨version, url, sha256, output, hmeant, hwrites⟩ :=
    (run_settings hname specimenSettings ⟨.empty, some []⟩).1.mp hcomplete
  obtain ⟨rfl, rfl, rfl, rfl⟩ := hmeant.unique hsaid
  rw [hwords] at hwrites
  exact ⟨hname, hcomplete, hwrites⟩

end ReleaseArtifacts.CommandLine
