import ReleaseArtifacts.CommandLine.Parse
import ReleaseArtifacts.Proofs.Failing
import ReleaseArtifacts.Proofs.Lookup

namespace ReleaseArtifacts.CommandLine

/-!
# Settings

What can be written after the name of the formula command.

* `Setting` — an option with its value, as it is written: in one argument, or in two.
* `Word.ofArgument_dashes`, `ofArgument_eq_plain_iff` — how arguments are taken.
* `collect` — the values of settings, taken one after the other.
* `parseFormula_settings` — settings are read by collecting their values, and
  `exists_settings` — nothing but settings is read.
-/

/-! ### Forms of arguments -/

/-- The names of an option. -/
def FormulaOption.names : FormulaOption → List String
  | version => ["version"]
  | url => ["url"]
  | sha256 => ["sha256", "checksum"]
  | output => ["output"]

theorem FormulaOption.ofName?_eq_some_iff {name : String} {option : FormulaOption} :
    ofName? name = some option ↔ name ∈ option.names := by
  rw [ofName?]
  split_ifs with hversion hurl hsum houtput
  · subst hversion
    cases option <;> decide
  · subst hurl
    cases option <;> decide
  · rcases hsum with rfl | rfl <;> cases option <;> decide
  · subst houtput
    cases option <;> decide
  · cases option <;> simp_all [names]

/-- No option is named with an equals sign, or not at all. -/
theorem FormulaOption.of_mem_names {name : String} {option : FormulaOption}
    (h : name ∈ option.names) : name ≠ "" ∧ '=' ∉ name.toList := by
  suffices hall : ∀ name ∈ option.names, name ≠ "" ∧ '=' ∉ name.toList from hall name h
  cases option <;> decide

section Words

variable {text : List Char} {argument name : String} {value : String}

/-- A name without a value. -/
theorem named_of_notMem (h : '=' ∉ name.toList) : named name.toList = .long name none := by
  have hall : ∀ c ∈ name.toList, decide (c ≠ '=') = true := fun c hc =>
    decide_eq_true fun heq => h (heq ▸ hc)
  rw [named, List.dropWhile_eq_nil_iff.mpr hall, List.takeWhile_eq_self_iff.mpr hall,
    String.ofList_toList]

/-- A name with a value after an equals sign. -/
theorem named_append (h : '=' ∉ name.toList) (value : String) :
    named (name.toList ++ '=' :: value.toList) = .long name (some value) := by
  have hall : ∀ c ∈ name.toList, decide (c ≠ '=') = true := fun c hc =>
    decide_eq_true fun heq => h (heq ▸ hc)
  rw [named, List.dropWhile_append_of_pos hall, List.takeWhile_append_of_pos hall,
    List.dropWhile_cons_of_neg (by simp), List.takeWhile_cons_of_neg (by simp), List.append_nil,
    String.ofList_toList]
  dsimp only
  rw [String.ofList_toList]

/-- What a named word was written like. -/
theorem eq_of_named {value : Option String} (h : named text = .long name value) :
    text = name.toList ++ (value.elim [] fun v => '=' :: v.toList) := by
  rw [named] at h
  have hwhole := List.takeWhile_append_dropWhile (p := fun c => decide (c ≠ '=')) (l := text)
  split at h
  · rename_i hrest
    obtain ⟨rfl, rfl⟩ := Word.long.inj h
    rw [hrest] at hwhole
    rw [String.toList_ofList]
    exact hwhole.symm
  · rename_i c rest hrest
    obtain ⟨rfl, rfl⟩ := Word.long.inj h
    have hequals := List.head?_dropWhile_not (fun c => decide (c ≠ '=')) text
    rw [hrest] at hequals
    obtain rfl : c = '=' := by simpa using hequals
    rw [hrest] at hwhole
    rw [String.toList_ofList, Option.elim_some, String.toList_ofList]
    exact hwhole.symm

namespace Word

/-- Anything after two dashes is a name, perhaps with a value. -/
theorem ofArgument_dashes (h : argument ≠ "") :
    ofArgument ("--" ++ argument) = named argument.toList := by
  obtain ⟨c, rest, hargument⟩ :=
    List.exists_cons_of_ne_nil fun hnil => h (String.toList_inj.mp hnil)
  have htext : ("--" ++ argument).toList = '-' :: '-' :: c :: rest := by
    rw [String.toList_append, hargument]
    rfl
  rw [ofArgument, htext, hargument]
  rfl

/-- The argument that a word with a name was. -/
theorem eq_of_ofArgument_long {value : Option String} (h : ofArgument argument = .long name value) :
    argument = "--" ++ name ++ value.elim "" ("=" ++ ·) := by
  rw [ofArgument] at h
  split at h
  · exact nomatch h
  · rename_i text _ htext
    have hnamed := eq_of_named h
    rw [← String.toList_inj, htext, hnamed]
    cases value <;> simp
  · exact nomatch h
  · exact nomatch h

/-- The argument after which no options follow. -/
theorem eq_of_ofArgument_escape (h : ofArgument argument = .escape) : argument = "--" := by
  rw [ofArgument] at h
  split at h
  · rename_i htext
    exact String.toList_inj.mp htext
  · rw [named] at h
    split at h <;> exact nomatch h
  · exact nomatch h
  · exact nomatch h

/-- An argument is neither an option nor flags if it does not begin with a dash, or is one. -/
theorem ofArgument_eq_plain_iff :
    ofArgument argument = .plain ↔ (argument.toList.head? = some '-' → argument = "-") := by
  rw [ofArgument]
  split
  · rename_i htext
    simp [htext, ← String.toList_inj]
  · rename_i text _ htext
    rw [named]
    split <;> simp [htext, ← String.toList_inj]
  · rename_i htext
    simp [htext, ← String.toList_inj]
  · rename_i hescape hlong hshort
    refine iff_of_true rfl fun hdash => String.toList_inj.mp ?_
    cases hargument : argument.toList with
    | nil => simp [hargument] at hdash
    | cons c rest =>
      obtain rfl : c = '-' := by simpa [hargument] using hdash
      cases rest with
      | nil => rfl
      | cons first rest => exact absurd hargument (hshort first rest)

end Word

end Words

/-! ### Settings -/

/-- An option with its value, as it is written: in one argument, with an equals sign between, or in
    two.  A value in an argument of its own does not begin with a dash, or is one. -/
structure Setting where
  option : FormulaOption
  name : String
  value : String
  attached : Bool
  named : name ∈ option.names
  plain : attached = false → value.toList.head? = some '-' → value = "-"

namespace Setting

/-- The arguments. -/
def words (t : Setting) : List String :=
  if t.attached then ["--" ++ t.name ++ "=" ++ t.value] else ["--" ++ t.name, t.value]

theorem length_words_pos (t : Setting) : 0 < t.words.length := by
  rw [words]
  split <;> simp

/-- What is said by them. -/
def said (t : Setting) : FormulaOption × String := (t.option, t.value)

end Setting

/-- The end of what is said about a formula: two dashes alone may stand there. -/
def IsEnd (closing : List String) : Prop := closing = [] ∨ closing = ["--"]

/-- The values of settings, taken one after the other. -/
def collect (given : Given) (settings : List Setting) : Except UsageFault Given :=
  settings.foldlM (fun given t => accept given t.option t.value) given

variable {given given' : Given} {waiting : Option Waiting} {t : Setting} {settings : List Setting}
  {request : Request} {rest closing arguments : List String} {argument : String}

theorem Word.ofArgument_attached (t : Setting) :
    ofArgument ("--" ++ t.name ++ "=" ++ t.value) = .long t.name (some t.value) := by
  obtain ⟨hne, hequals⟩ := FormulaOption.of_mem_names t.named
  have htext : (t.name ++ "=" ++ t.value).toList = t.name.toList ++ '=' :: t.value.toList := by simp
  have hsome : t.name ++ "=" ++ t.value ≠ "" := by simp
  have hargument : "--" ++ t.name ++ "=" ++ t.value = "--" ++ (t.name ++ "=" ++ t.value) := by
    simp only [String.append_assoc]
  rw [hargument, ofArgument_dashes hsome, htext, named_append hequals]

theorem Word.ofArgument_name (t : Setting) : ofArgument ("--" ++ t.name) = .long t.name none := by
  obtain ⟨hne, hequals⟩ := FormulaOption.of_mem_names t.named
  rw [ofArgument_dashes hne, named_of_notMem hequals]

/-! ### Reading settings -/

/-- A setting in one argument. -/
theorem parseFormula_attached (t : Setting) (given : Given) (waiting : Option Waiting)
    (rest : List String) :
    parseFormula given waiting (("--" ++ t.name ++ "=" ++ t.value) :: rest) =
      (do parseFormula (← accept (← settle given waiting) t.option t.value) none rest) := by
  rw [parseFormula.eq_def]
  dsimp only
  rw [Word.ofArgument_attached]
  dsimp only
  rw [FormulaOption.ofName?_eq_some_iff.mpr t.named]

/-- A setting in two arguments.  Its value waits to be looked at. -/
theorem parseFormula_detached (hplain : Word.ofArgument t.value = .plain) (given : Given)
    (waiting : Option Waiting) (rest : List String) :
    parseFormula given waiting (("--" ++ t.name) :: t.value :: rest) =
      (do parseFormula (← settle given waiting) (some ⟨t.option, some t.value⟩) rest) := by
  have hvalue : ∀ given, parseFormula given (some ⟨t.option, none⟩) (t.value :: rest) =
      parseFormula given (some ⟨t.option, some t.value⟩) rest := by
    intro given
    rw [parseFormula.eq_def]
    dsimp only
    rw [hplain]
  rw [parseFormula.eq_def]
  dsimp only
  rw [Word.ofArgument_name]
  dsimp only
  rw [FormulaOption.ofName?_eq_some_iff.mpr t.named]
  simp only [hvalue]

/-- At the end it shows whether everything was said. -/
theorem parseFormula_end (h : IsEnd closing) (given : Given) (waiting : Option Waiting) :
    parseFormula given waiting closing = (do formulaRequest (← settle given waiting)) := by
  rcases h with rfl | rfl
  · rw [parseFormula]
  · have hescape : Word.ofArgument "--" = .escape := rfl
    rw [parseFormula.eq_def]
    dsimp only
    rw [hescape]

/-- **Settings are read by collecting their values.** -/
theorem parseFormula_settings (settings : List Setting) (hclosing : IsEnd closing) (given : Given)
    (waiting : Option Waiting) :
    parseFormula given waiting (settings.flatMap Setting.words ++ closing) =
      (do formulaRequest (← collect (← settle given waiting) settings)) := by
  induction settings generalizing given waiting with
  | nil =>
    rw [List.flatMap_nil, List.nil_append, parseFormula_end hclosing]
    congr 1
  | cons t settings ih =>
    have hcollect : ∀ given, collect given (t :: settings) =
        (do collect (← accept given t.option t.value) settings) := fun given => List.foldlM_cons
    simp only [List.flatMap_cons, List.append_assoc, hcollect]
    cases hattached : t.attached with
    | true =>
      -- The value is looked at, and then nothing waits.
      have hsettle : ∀ given, settle given none = pure given := fun _ => rfl
      rw [Setting.words, if_pos hattached, List.singleton_append, parseFormula_attached]
      simp only [ih, hsettle, bind_assoc, pure_bind]
    | false =>
      -- The value waits, and is looked at when the wait ends.
      have hsettle : ∀ given, settle given (some ⟨t.option, some t.value⟩) =
          accept given t.option t.value := fun _ => rfl
      have hplain := Word.ofArgument_eq_plain_iff.mpr (t.plain hattached)
      rw [Setting.words, if_neg (by simp [hattached]), List.cons_append, List.singleton_append,
        parseFormula_detached hplain]
      simp only [ih, hsettle, bind_assoc]

/-! ### Nothing but settings -/

/-- Help is asked for, or the version. -/
def Request.Informs : Request → Prop
  | .help _ => True
  | .version => True
  | .formula _ _ _ _ => False
  | .icons => False

/-- A flag asks for nothing else. -/
theorem informs_of_namedFlag {withVersion : Bool} {page : Page} {name : String}
    {value : Option String} (h : namedFlag withVersion page name value = .ok request) :
    request.Informs := by
  unfold namedFlag at h
  split at h
  · rename_i found hflag
    obtain rfl := Except.ok.inj h
    unfold flagNamed? at hflag
    split_ifs at hflag <;> obtain rfl := Option.some.inj hflag <;> trivial
  · exact nomatch h
  · exact nomatch h

theorem informs_of_letterFlag {withVersion : Bool} {page : Page} {letter : Char}
    (h : letterFlag withVersion page letter = .ok request) : request.Informs := by
  unfold letterFlag at h
  split at h
  · rename_i found hflag
    obtain rfl := Except.ok.inj h
    unfold flagLetter? at hflag
    split_ifs at hflag <;> obtain rfl := Option.some.inj hflag <;> trivial
  · exact nomatch h

/-- What comes after the name of an option is its value. -/
theorem exists_value {option : FormulaOption}
    (h : parseFormula given (some ⟨option, none⟩) arguments = .ok request) :
    ∃ value rest, arguments = value :: rest ∧ Word.ofArgument value = .plain ∧
      parseFormula given (some ⟨option, some value⟩) rest = .ok request := by
  have hsettle : settle given (some ⟨option, none⟩) = .error (.valueMissing option) := rfl
  cases arguments with
  | nil =>
    rw [parseFormula_end (.inl rfl), hsettle] at h
    exact nomatch h
  | cons argument rest =>
    -- Anything but a value ends the wait, and then the value is missing.
    rw [parseFormula.eq_def] at h
    dsimp only at h
    cases hword : Word.ofArgument argument with
    | plain =>
      rw [hword] at h
      exact ⟨argument, rest, rfl, hword, h⟩
    | escape =>
      rw [hword] at h
      cases rest with
      | nil => exact nomatch h
      | cons next rest => exact nomatch h
    | long name value =>
      rw [hword] at h
      simp only [hsettle, error_bind] at h
      split at h
      · exact nomatch h
      · exact nomatch h
      · obtain ⟨_, -, h⟩ := bind_eq_ok_iff.mp h
        exact nomatch h
    | short letter =>
      rw [hword] at h
      dsimp only at h
      rw [hsettle] at h
      obtain ⟨_, -, h⟩ := bind_eq_ok_iff.mp h
      exact nomatch h

/-- What comes first, unless help or the version is asked for: the end, or a setting. -/
theorem exists_setting (h : parseFormula given waiting (argument :: rest) = .ok request)
    (hwaiting : ∀ option, waiting ≠ some ⟨option, none⟩) :
    request.Informs ∨ IsEnd (argument :: rest) ∨
      ∃ (t : Setting) (given' : Given) (waiting' : Option Waiting) (others : List String),
        argument :: rest = t.words ++ others ∧ (∀ option, waiting' ≠ some ⟨option, none⟩) ∧
        parseFormula given' waiting' others = .ok request := by
  rw [parseFormula.eq_def] at h
  dsimp only at h
  cases hword : Word.ofArgument argument with
  | plain =>
    rw [hword] at h
    dsimp only at h
    split at h
    · exact absurd rfl (hwaiting _)
    · exact nomatch h
  | escape =>
    rw [hword] at h
    cases rest with
    | nil => exact .inr (.inl (.inr (by rw [Word.eq_of_ofArgument_escape hword])))
    | cons next rest => exact nomatch h
  | short letter =>
    rw [hword] at h
    obtain ⟨found, hflag, h⟩ := bind_eq_ok_iff.mp h
    obtain ⟨-, -, h⟩ := bind_eq_ok_iff.mp h
    obtain rfl := Except.ok.inj h
    exact .inl (informs_of_letterFlag hflag)
  | long name value =>
    rw [hword] at h
    dsimp only at h
    have hargument := Word.eq_of_ofArgument_long hword
    split at h
    · -- A setting in one argument.
      rename_i option value' hname
      obtain ⟨_, -, h⟩ := bind_eq_ok_iff.mp h
      obtain ⟨_, -, h⟩ := bind_eq_ok_iff.mp h
      refine .inr (.inr ⟨⟨option, name, value', true, FormulaOption.ofName?_eq_some_iff.mp hname,
        nofun⟩, _, none, rest, ?_, by simp, h⟩)
      rw [hargument, Option.elim_some, ← String.append_assoc]
      rfl
    · -- A setting in two arguments.
      rename_i option hname
      obtain ⟨_, -, h⟩ := bind_eq_ok_iff.mp h
      obtain ⟨value, others, rfl, hplain, h⟩ := exists_value h
      refine .inr (.inr ⟨⟨option, name, value, false, FormulaOption.ofName?_eq_some_iff.mp hname,
        fun _ => Word.ofArgument_eq_plain_iff.mp hplain⟩, _, _, others, ?_, by simp, h⟩)
      rw [hargument, Option.elim_none, String.append_empty]
      rfl
    · obtain ⟨found, hflag, h⟩ := bind_eq_ok_iff.mp h
      obtain ⟨-, -, h⟩ := bind_eq_ok_iff.mp h
      obtain rfl := Except.ok.inj h
      exact .inl (informs_of_namedFlag hflag)

/-- **Nothing but settings is read**, unless help or the version is asked for. -/
theorem exists_settings (h : parseFormula given waiting arguments = .ok request)
    (hwaiting : ∀ option, waiting ≠ some ⟨option, none⟩) :
    request.Informs ∨ ∃ (settings : List Setting) (closing : List String), IsEnd closing ∧
      arguments = settings.flatMap Setting.words ++ closing := by
  -- On the number of arguments: a setting takes one of them, or two.
  induction hlength : arguments.length using Nat.strong_induction_on generalizing given waiting
    arguments with
  | _ length ih =>
    subst hlength
    cases arguments with
    | nil => exact .inr ⟨[], [], .inl rfl, rfl⟩
    | cons argument rest =>
      rcases exists_setting h hwaiting with
        hinforms | hend | ⟨t, given', waiting', others, hwords, hwaiting', h'⟩
      · exact .inl hinforms
      · exact .inr ⟨[], _, hend, rfl⟩
      · have hshorter : others.length < (argument :: rest).length := by
          have hpos := t.length_words_pos
          rw [hwords, List.length_append]
          omega
        refine (ih _ hshorter h' hwaiting' rfl).imp_right ?_
        rintro ⟨settings, closing, hclosing, rfl⟩
        exact ⟨t :: settings, closing, hclosing, by
          rw [hwords, List.flatMap_cons, List.append_assoc]⟩

end ReleaseArtifacts.CommandLine
