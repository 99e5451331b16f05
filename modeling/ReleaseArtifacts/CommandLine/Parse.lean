import ReleaseArtifacts.CommandLine.Request

namespace ReleaseArtifacts.CommandLine

/-!
# Reading command lines

* `Word` — the form of an argument: an option, flags, or neither.
* `parse` — the request of a command line.

Arguments are read one by one, and the first fault counts.  An option without a value of its own
waits for the next argument; its value is only looked at when the wait is over.
-/

/-- The form of an argument. -/
inductive Word
  /-- two dashes alone; no options follow -/
  | escape
  /-- a name after two dashes, perhaps with a value after an equals sign -/
  | long (name : String) (value : Option String)
  /-- letters after one dash -/
  | short (first : Char)
  | plain
deriving DecidableEq, Repr

/-- A name and the value after the first equals sign. -/
def named (text : List Char) : Word :=
  let name := String.ofList (text.takeWhile (· ≠ '='))
  match text.dropWhile (· ≠ '=') with
  | [] => .long name none
  | _ :: value => .long name (some (String.ofList value))

/-- The form of an argument. -/
def Word.ofArgument (argument : String) : Word :=
  match argument.toList with
  | ['-', '-'] => escape
  | '-' :: '-' :: text => named text
  | '-' :: first :: _ => short first
  | _ => plain

/-- A flag of one letter. -/
def flagText (letter : Char) : String := String.ofList ['-', letter]

/-! ### Flags -/

/-- What a flag asks for that is given by name. -/
def flagNamed? (withVersion : Bool) (page : Page) (name : String) : Option Request :=
  if name = "help" then some (.help page)
  else if withVersion ∧ name = "version" then some .version
  else none

/-- What a flag asks for that is given by a letter. -/
def flagLetter? (withVersion : Bool) (page : Page) (letter : Char) : Option Request :=
  if letter = 'h' then some (.help page)
  else if withVersion ∧ letter = 'V' then some .version
  else none

/-- The request of a named flag, which has no value. -/
def namedFlag (withVersion : Bool) (page : Page) (name : String) (value : Option String) :
    Except UsageFault Request :=
  match flagNamed? withVersion page name, value with
  | some request, none => .ok request
  | some _, some value => .error (.unexpectedValue value ("--" ++ name))
  | none, _ => .error (.unexpectedArgument ("--" ++ name))

/-- The request of a flag of one letter. -/
def letterFlag (withVersion : Bool) (page : Page) (letter : Char) : Except UsageFault Request :=
  match flagLetter? withVersion page letter with
  | some request => .ok request
  | none => .error (.unexpectedArgument (flagText letter))

/-! ### The formula command -/

/-- The options that were given a value. -/
abbrev Given := List (FormulaOption × String)

/-- An option that waits for a value, or for its value to be looked at. -/
structure Waiting where
  option : FormulaOption
  value : Option String

/-- Takes the value of an option.  Each is given once, and the output is not empty. -/
def accept (given : Given) (option : FormulaOption) (value : String) : Except UsageFault Given :=
  if (given.lookup option).isSome then .error (.repeated option)
  else if option = .output ∧ value = "" then .error (.valueMissing option)
  else .ok ((option, value) :: given)

/-- Ends the wait of an option. -/
def settle (given : Given) : (waiting : Option Waiting) → Except UsageFault Given
  | none => .ok given
  | some ⟨option, none⟩ => .error (.valueMissing option)
  | some ⟨option, some value⟩ => accept given option value

/-- The request of the formula command, which needs every option. -/
def formulaRequest (given : Given) : Except UsageFault Request :=
  match given.lookup .version, given.lookup .url, given.lookup .sha256, given.lookup .output with
  | some version, some url, some sha256, some output => .ok (.formula version url sha256 output)
  | _, _, _, _ => .error (.missing (FormulaOption.all.filter fun o => (given.lookup o).isNone))

/-- Reads the arguments of the formula command. -/
def parseFormula (given : Given) (waiting : Option Waiting) :
    (arguments : List String) → Except UsageFault Request
  | [] => do formulaRequest (← settle given waiting)
  | argument :: rest =>
    match Word.ofArgument argument with
    | .escape =>
      match rest with
      | [] => do formulaRequest (← settle given waiting)
      | next :: _ => .error (.unexpectedArgument next)
    | .long name value =>
      match FormulaOption.ofName? name, value with
      | some option, some value => do
        parseFormula (← accept (← settle given waiting) option value) none rest
      | some option, none => do parseFormula (← settle given waiting) (some ⟨option, none⟩) rest
      | none, value => do
        let request ← namedFlag false .formula name value
        let _ ← settle given waiting
        return request
    | .short letter => do
      let request ← letterFlag false .formula letter
      let _ ← settle given waiting
      return request
    | .plain =>
      match waiting with
      | some ⟨option, none⟩ => parseFormula given (some ⟨option, some argument⟩) rest
      | _ => .error (.unexpectedArgument argument)

/-! ### Other commands -/

/-- Reads the arguments of the icons command, which has none. -/
def parseIcons : (arguments : List String) → Except UsageFault Request
  | [] => .ok .icons
  | argument :: rest =>
    match Word.ofArgument argument with
    | .escape =>
      match rest with
      | [] => .ok .icons
      | next :: _ => .error (.unexpectedArgument next)
    | .long name value => namedFlag false .icons name value
    | .short letter => letterFlag false .icons letter
    | .plain => .error (.unexpectedArgument argument)

/-- Reads the arguments of the help command: the name of a command, which has no further ones. -/
def parseHelp : (arguments : List String) → Except UsageFault Request
  | [] => .ok (.help .main)
  | name :: rest =>
    match Command.ofName? name, rest with
    | some command, [] => .ok (.help command.page)
    | some _, next :: _ => .error (.unknownCommand next)
    | none, _ => .error (.unknownCommand name)

/-! ### Command lines -/

/-- The fault of a word where a command should be, after which no options follow. -/
def escapedFault (argument : String) : UsageFault :=
  match Command.ofName? argument with
  | some _ => .unexpectedArgument argument
  | none => .unknownCommand argument

/-- The request of a command line. -/
def parse : (arguments : List String) → Except UsageFault Request
  | [] => .error .noCommand
  | argument :: rest =>
    match Command.ofName? argument with
    | some .formula => parseFormula [] none rest
    | some .icons => parseIcons rest
    | some .help => parseHelp rest
    | none =>
      match Word.ofArgument argument with
      | .escape =>
        match rest with
        | [] => .error .noCommand
        | next :: _ => .error (escapedFault next)
      | .long name value => namedFlag true .main name value
      | .short letter => letterFlag true .main letter
      | .plain => .error (.unknownCommand argument)

end ReleaseArtifacts.CommandLine
