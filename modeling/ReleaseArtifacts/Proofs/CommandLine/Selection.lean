import ReleaseArtifacts.Proofs.CommandLine.Settings

namespace ReleaseArtifacts.CommandLine

/-!
# What command lines select

The command lines that select a command, said without reading them.

* `Says` — what settings say about a formula, in whatever order and notation.
* `Complete` — every option is there once, and the output is named; `complete_iff_exists_values` is
  that the settings say something exactly then.
* `SelectsFormula`, `SelectsIcons` — the command lines that select a command.
* `parse_of_selectsFormula`, `parse_of_selectsIcons`, `parse_eq_ok` — these command lines are read
  as what they select, and no others.
-/

variable {given given' : Given} {settings : List Setting} {request : Request}
  {arguments closing : List String} {version url sha256 output : String}

/-! ### What settings say -/

/-- The settings are the four options with these values, in some order. -/
def Says (settings : List Setting) (version url sha256 output : String) : Prop :=
  (settings.map Setting.said).Perm
    [(.version, version), (.url, url), (.sha256, sha256), (.output, output)]

/-- Every option is set once, and the output is named. -/
structure Complete (settings : List Setting) : Prop where
  once : ∀ option, (settings.map Setting.option).count option = 1
  output : ∀ t ∈ settings, t.option = .output → t.value ≠ ""

theorem map_fst_said (settings : List Setting) :
    (settings.map Setting.said).map Prod.fst = settings.map Setting.option := by
  rw [List.map_map]
  rfl

namespace Says

/-- The options are the four. -/
theorem options (h : Says settings version url sha256 output) :
    (settings.map Setting.option).Perm [.version, .url, .sha256, .output] := by
  rw [← map_fst_said]
  exact h.map Prod.fst

theorem nodup (h : Says settings version url sha256 output) :
    (settings.map Setting.option).Nodup :=
  h.options.nodup_iff.mpr (by decide)

/-- An output is named if one is said. -/
theorem named (h : Says settings version url sha256 output) (hne : output ≠ "") :
    ∀ t ∈ settings, t.option = .output → t.value ≠ "" := by
  intro t ht houtput
  have hsaid := h.mem_iff.mp (List.mem_map_of_mem ht)
  rw [Setting.said, houtput] at hsaid
  simp only [List.mem_cons, Prod.mk.injEq, reduceCtorEq, false_and, true_and, false_or,
    List.not_mem_nil, or_false] at hsaid
  exact hsaid ▸ hne

/-- Nothing else is said. -/
theorem unique {version' url' sha256' output' : String}
    (h : Says settings version url sha256 output)
    (h' : Says settings version' url' sha256' output') :
    version = version' ∧ url = url' ∧ sha256 = sha256' ∧ output = output' := by
  have hmem := fun pair => (List.Perm.mem_iff (a := pair) (h.symm.trans h')).mp
  have hversion := hmem (.version, version) (by simp)
  have hurl := hmem (.url, url) (by simp)
  have hsum := hmem (.sha256, sha256) (by simp)
  have houtput := hmem (.output, output) (by simp)
  simp only [List.mem_cons, Prod.mk.injEq, reduceCtorEq, false_and, true_and, false_or, or_false,
    List.not_mem_nil] at hversion hurl hsum houtput
  exact ⟨hversion, hurl, hsum, houtput⟩

end Says

/-- Settings without repeated options that have the four values say them. -/
theorem says_of_nodup (hnodup : (settings.map Setting.option).Nodup)
    (hversion : (.version, version) ∈ settings.map Setting.said)
    (hurl : (.url, url) ∈ settings.map Setting.said)
    (hsum : (.sha256, sha256) ∈ settings.map Setting.said)
    (houtput : (.output, output) ∈ settings.map Setting.said) :
    Says settings version url sha256 output := by
  have hkeys : ((settings.map Setting.said).map Prod.fst).Nodup := by rwa [map_fst_said]
  refine (List.perm_ext_iff_of_nodup hkeys.of_map (by simp)).mpr ?_
  rintro ⟨option, value⟩
  refine ⟨fun h => ?_, fun h => ?_⟩
  · -- There is one value for each option.
    have hone : ∀ {w}, (option, w) ∈ settings.map Setting.said → value = w := fun hw =>
      (Prod.mk.inj (List.inj_on_of_nodup_map hkeys h hw rfl)).2
    cases option with
    | version => simp [hone hversion]
    | url => simp [hone hurl]
    | sha256 => simp [hone hsum]
    | output => simp [hone houtput]
  · simp only [List.mem_cons, List.not_mem_nil, or_false] at h
    rcases h with h | h | h | h
    · exact h ▸ hversion
    · exact h ▸ hurl
    · exact h ▸ hsum
    · exact h ▸ houtput

/-- **Complete settings say something, and no others do.** -/
theorem complete_iff_exists_values : Complete settings ↔
    ∃ version url sha256 output, Says settings version url sha256 output ∧ output ≠ "" := by
  constructor
  · intro h
    have hnodup := List.nodup_iff_count_le_one.mpr fun option => (h.once option).le
    have hsaid : ∀ option, ∃ t ∈ settings, t.option = option := by
      intro option
      have hcount : 0 < (settings.map Setting.option).count option := by
        rw [h.once option]
        exact Nat.one_pos
      exact List.mem_map.mp (List.count_pos_iff.mp hcount)
    have hvalue : ∀ option, ∃ value, (option, value) ∈ settings.map Setting.said := by
      intro option
      obtain ⟨t, ht, rfl⟩ := hsaid option
      exact ⟨t.value, List.mem_map_of_mem ht⟩
    obtain ⟨version, hversion⟩ := hvalue .version
    obtain ⟨url, hurl⟩ := hvalue .url
    obtain ⟨sha256, hsum⟩ := hvalue .sha256
    obtain ⟨output, houtput⟩ := hvalue .output
    refine ⟨version, url, sha256, output, says_of_nodup hnodup hversion hurl hsum houtput, ?_⟩
    obtain ⟨t, ht, heq⟩ := List.mem_map.mp houtput
    obtain ⟨hoption, rfl⟩ := Prod.mk.inj heq
    exact h.output t ht hoption
  · rintro ⟨version, url, sha256, output, hmeant, hne⟩
    refine ⟨fun option => ?_, hmeant.named hne⟩
    rw [hmeant.options.count_eq]
    cases option <;> rfl

/-! ### Collecting -/

/-- A value is taken if its option has none yet, and if it is not an empty output. -/
theorem accept_eq_ok_iff {option : FormulaOption} {value : String} :
    accept given option value = .ok given' ↔
      given.lookup option = none ∧ (option = .output → value ≠ "") ∧
        given' = (option, value) :: given := by
  rw [accept]
  split_ifs with hgiven hempty
  · simp [Option.isSome_iff_ne_none.mp hgiven]
  · simp [hempty]
  · have hnone := Option.not_isSome_iff_eq_none.mp hgiven
    have hne : option = .output → value ≠ "" := fun ho hv => hempty ⟨ho, hv⟩
    exact ⟨fun h => ⟨hnone, hne, (Except.ok.inj h).symm⟩, fun ⟨_, _, h⟩ => h ▸ rfl⟩

/-- **Settings are collected** if none of their options is repeated and the output is named. -/
theorem collect_eq_ok_iff :
    collect given settings = .ok given' ↔
      given' = (settings.map Setting.said).reverse ++ given ∧
      (settings.map Setting.option).Nodup ∧ (∀ t ∈ settings, given.lookup t.option = none) ∧
      ∀ t ∈ settings, t.option = .output → t.value ≠ "" := by
  -- On the settings, whatever was given before: each of them adds its option to what is given.
  induction settings generalizing given with
  | nil =>
    rw [collect, List.foldlM_nil]
    exact ⟨fun h => ⟨(Except.ok.inj h).symm, .nil, nofun, nofun⟩, fun ⟨h, _⟩ => h ▸ rfl⟩
  | cons t settings ih =>
    have hcollect : collect given (t :: settings) = .ok given' ↔
        ∃ given₁, accept given t.option t.value = .ok given₁ ∧
          collect given₁ settings = .ok given' := by
      rw [collect, List.foldlM_cons, bind_eq_ok_iff]
      rfl
    have hlookup : ∀ option, ((t.option, t.value) :: given).lookup option = none ↔
        option ≠ t.option ∧ given.lookup option = none := by
      intro option
      by_cases h : option = t.option
      · simp [h]
      · rw [List.lookup_cons, beq_eq_false_iff_ne.mpr h]
        exact ⟨fun hnone => ⟨h, hnone⟩, And.right⟩
    simp only [hcollect, accept_eq_ok_iff, ih, List.map_cons, List.nodup_cons, List.forall_mem_cons,
      List.mem_map]
    constructor
    · rintro ⟨_, ⟨hnone, hne, rfl⟩, rfl, hnodup, hothers, hnamed⟩
      refine ⟨by simp [Setting.said], ⟨?_, hnodup⟩,
        ⟨hnone, fun u hu => ((hlookup _).mp (hothers u hu)).2⟩, hne, hnamed⟩
      rintro ⟨u, hu, heq⟩
      exact ((hlookup _).mp (hothers u hu)).1 heq
    · rintro ⟨rfl, ⟨hfresh, hnodup⟩, ⟨hnone, hothers⟩, hne, hnamed⟩
      exact ⟨_, ⟨hnone, hne, rfl⟩, by simp [Setting.said], hnodup, fun u hu =>
        (hlookup _).mpr ⟨fun heq => hfresh ⟨u, hu, heq⟩, hothers u hu⟩, hnamed⟩

/-- A formula is asked for once every option has a value. -/
theorem formulaRequest_eq_ok_iff :
    formulaRequest given = .ok request ↔ ∃ version url sha256 output,
      given.lookup .version = some version ∧ given.lookup .url = some url ∧
      given.lookup .sha256 = some sha256 ∧ given.lookup .output = some output ∧
      request = .formula version url sha256 output := by
  rw [formulaRequest.eq_def]
  split
  · rename_i version url sha256 output hversion hurl hsum houtput
    rw [hversion, hurl, hsum, houtput]
    simp [eq_comm]
  · rename_i hmissing
    refine ⟨nofun, ?_⟩
    rintro ⟨version, url, sha256, output, hversion, hurl, hsum, houtput, -⟩
    exact absurd houtput (hmissing _ _ _ _ hversion hurl hsum)

/-- **Settings ask for what they say.** -/
theorem request_of_settings_iff :
    (do formulaRequest (← collect [] settings)) = .ok request ↔
      ∃ version url sha256 output, Says settings version url sha256 output ∧ output ≠ "" ∧
        request = .formula version url sha256 output := by
  have hkeys : ((settings.map Setting.said).reverse.map Prod.fst).Perm
      (settings.map Setting.option) := by
    rw [← map_fst_said]
    exact (List.reverse_perm _).map _
  simp only [bind_eq_ok_iff, collect_eq_ok_iff, formulaRequest_eq_ok_iff, List.append_nil]
  constructor
  · rintro ⟨_, ⟨rfl, hnodup, -, hnamed⟩, version, url, sha256, output, hversion, hurl, hsum,
      houtput, rfl⟩
    have hmem : ∀ {option value}, (settings.map Setting.said).reverse.lookup option = some value →
        (option, value) ∈ settings.map Setting.said := fun h =>
      List.mem_reverse.mp (mem_of_lookup h)
    obtain ⟨t, ht, heq⟩ := List.mem_map.mp (hmem houtput)
    obtain ⟨hoption, rfl⟩ := Prod.mk.inj heq
    exact ⟨version, url, sha256, t.value,
      says_of_nodup hnodup (hmem hversion) (hmem hurl) (hmem hsum) (hmem houtput),
      hnamed t ht hoption, rfl⟩
  · rintro ⟨version, url, sha256, output, hmeant, hne, rfl⟩
    have hlookup : ∀ {option value}, (option, value) ∈ [(FormulaOption.version, version),
        (.url, url), (.sha256, sha256), (.output, output)] →
        (settings.map Setting.said).reverse.lookup option = some value := fun h =>
      (lookup_eq_some_iff_mem (hkeys.nodup_iff.mpr hmeant.nodup)).mpr
        (List.mem_reverse.mpr (hmeant.mem_iff.mpr h))
    exact ⟨_, ⟨rfl, hmeant.nodup, fun _ _ => rfl, hmeant.named hne⟩, version, url, sha256, output,
      hlookup (by simp), hlookup (by simp), hlookup (by simp), hlookup (by simp), rfl⟩

/-! ### Selecting a command -/

/-- The names of a command. -/
def Command.names : Command → List String
  | formula => ["formula", "f"]
  | icons => ["icons", "i"]
  | help => ["help"]

theorem Command.ofName?_eq_some_iff {name : String} {command : Command} :
    ofName? name = some command ↔ name ∈ command.names := by
  rw [ofName?]
  split_ifs with hformula hicons hhelp
  · rcases hformula with rfl | rfl <;> cases command <;> decide
  · rcases hicons with rfl | rfl <;> cases command <;> decide
  · subst hhelp
    cases command <;> decide
  · cases command <;> simp_all [names]

/-- The arguments are a name of the formula command and complete settings that say these values. -/
def SelectsFormula (arguments : List String) (version url sha256 output : String) : Prop :=
  ∃ name ∈ Command.names .formula, ∃ (settings : List Setting) (closing : List String),
    IsEnd closing ∧ arguments = name :: (settings.flatMap Setting.words ++ closing) ∧
    Says settings version url sha256 output ∧ output ≠ ""

/-- The arguments are a name of the icons command. -/
def SelectsIcons (arguments : List String) : Prop :=
  ∃ name ∈ Command.names .icons, ∃ closing, IsEnd closing ∧ arguments = name :: closing

/-- What is selected is asked for. -/
theorem parse_of_selectsFormula (h : SelectsFormula arguments version url sha256 output) :
    parse arguments = .ok (.formula version url sha256 output) := by
  obtain ⟨name, hname, settings, closing, hclosing, rfl, hmeant, hne⟩ := h
  rw [parse.eq_def]
  dsimp only
  rw [Command.ofName?_eq_some_iff.mpr hname]
  dsimp only
  rw [parseFormula_settings settings hclosing]
  exact request_of_settings_iff.mpr ⟨version, url, sha256, output, hmeant, hne, rfl⟩

theorem parse_of_selectsIcons (h : SelectsIcons arguments) : parse arguments = .ok .icons := by
  obtain ⟨name, hname, closing, hclosing, rfl⟩ := h
  rw [parse.eq_def]
  dsimp only
  rw [Command.ofName?_eq_some_iff.mpr hname]
  rcases hclosing with rfl | rfl <;> rfl

/-- The icons command takes no arguments. -/
theorem parseIcons_eq_ok (h : parseIcons arguments = .ok request) :
    request.Informs ∨ (request = .icons ∧ IsEnd arguments) := by
  cases arguments with
  | nil => exact .inr ⟨(Except.ok.inj h).symm, .inl rfl⟩
  | cons argument rest =>
    rw [parseIcons.eq_def] at h
    dsimp only at h
    cases hword : Word.ofArgument argument with
    | escape =>
      rw [hword] at h
      cases rest with
      | nil =>
        exact .inr ⟨(Except.ok.inj h).symm, .inr (by rw [Word.eq_of_ofArgument_escape hword])⟩
      | cons next rest => exact nomatch h
    | long name value =>
      rw [hword] at h
      exact .inl (informs_of_namedFlag h)
    | short letter =>
      rw [hword] at h
      exact .inl (informs_of_letterFlag h)
    | plain =>
      rw [hword] at h
      exact nomatch h

/-- The help command asks for a page. -/
theorem informs_of_parseHelp (h : parseHelp arguments = .ok request) : request.Informs := by
  rw [parseHelp.eq_def] at h
  split at h
  · obtain rfl := Except.ok.inj h
    trivial
  · split at h
    · obtain rfl := Except.ok.inj h
      trivial
    · exact nomatch h
    · exact nomatch h

/-- **Nothing else is asked for** by a command line than what it selects, or help, or the
    version. -/
theorem parse_eq_ok (h : parse arguments = .ok request) :
    request.Informs ∨ (request = .icons ∧ SelectsIcons arguments) ∨
      ∃ version url sha256 output, request = .formula version url sha256 output ∧
        SelectsFormula arguments version url sha256 output := by
  cases arguments with
  | nil => exact nomatch h
  | cons name rest =>
    rw [parse.eq_def] at h
    dsimp only at h
    cases hcommand : Command.ofName? name with
    | some command =>
      rw [hcommand] at h
      have hname := Command.ofName?_eq_some_iff.mp hcommand
      cases command with
      | help => exact .inl (informs_of_parseHelp h)
      | icons =>
        refine (parseIcons_eq_ok h).imp_right fun ⟨hrequest, hend⟩ => .inl ⟨hrequest, ?_⟩
        exact ⟨name, hname, rest, hend, rfl⟩
      | formula =>
        refine (exists_settings h (by simp)).imp_right ?_
        rintro ⟨settings, closing, hclosing, rfl⟩
        dsimp only at h
        rw [parseFormula_settings settings hclosing] at h
        obtain ⟨version, url, sha256, output, hmeant, hne, rfl⟩ := request_of_settings_iff.mp h
        exact .inr ⟨version, url, sha256, output, rfl, name, hname, settings, closing, hclosing,
          rfl, hmeant, hne⟩
    | none =>
      rw [hcommand] at h
      dsimp only at h
      cases hword : Word.ofArgument name with
      | escape =>
        rw [hword] at h
        cases rest with
        | nil => exact nomatch h
        | cons next rest => exact nomatch h
      | long name value =>
        rw [hword] at h
        exact .inl (informs_of_namedFlag h)
      | short letter =>
        rw [hword] at h
        exact .inl (informs_of_letterFlag h)
      | plain =>
        rw [hword] at h
        exact nomatch h

end ReleaseArtifacts.CommandLine
