import ReleaseArtifacts.Toml.Assembly
import ReleaseArtifacts.Toml.Quotation
import ReleaseArtifacts.Toml.Scalar

namespace ReleaseArtifacts.Toml

/-!
# Documents

* `keyPath` — dotted keys; `value` — values, with arrays and inline tables to a bounded depth.
* `line` — one line of a document: an assignment, the header of a table, or the header of an element
  of a list of tables.
* `Document` — the lines of a document, sorted into sections; `Document.table?` puts everything in
  its place.
* `parse` — the root table of a text, if the text is a document.
-/

/-! ### Blanks and comments -/

/-- Drops the blanks at the front. -/
def spaces (input : List Char) : Remnant Unit input :=
  ⟨(), input.dropWhile isSpace, (List.dropWhile_sublist _).length_le⟩

/-- A comment up to the end of its line. -/
def comment : CharReader Unit
  | '#' :: rest =>
    some ⟨(), rest.dropWhile isText, Nat.lt_succ_of_le (List.dropWhile_sublist _).length_le⟩
  | _ => none

/-- A line end. -/
def lineEnd : CharReader Unit
  | '\n' :: rest => some (.first () '\n' rest)
  | '\r' :: '\n' :: rest => some ((Read.first () '\n' rest).tail '\r')
  | _ => none

/-- A line end, or the end of the text. -/
def lineEndOrEnd (input : List Char) : Option (Remnant Unit input) :=
  match input with
  | [] => some (.start () [])
  | input => (lineEnd input).map fun r => ⟨(), r.rest, Nat.le_of_lt r.shorter⟩

/-- What may stand after a line's content: blanks, a comment, and the line end. -/
def lineRest (input : List Char) : Option (Remnant Unit input) :=
  let blank := spaces input
  match comment blank.rest with
  | some c => (lineEndOrEnd c.rest).map fun r =>
      ⟨(), r.rest,
        Nat.le_trans r.shorter (Nat.le_of_lt (Nat.lt_of_lt_of_le c.shorter blank.shorter))⟩
  | none => (lineEndOrEnd blank.rest).map blank.followedBy

/-- A blank, a line end, or a comment with its line end, between the items of an array. -/
def gapStep (_ : Unit) (input : List Char) : Continuation Unit input :=
  match input with
  | [] => .stop
  | '#' :: rest =>
    match comment ('#' :: rest) with
    | none => .refuse
    | some c =>
      match lineEnd c.rest with
      | none => .refuse
      | some e => .next (c.followedBy e)
  | c :: rest =>
    if isSpace c then .next (.first () c rest)
    else match lineEnd (c :: rest) with
      | some e => .next e
      | none => .stop

/-- Blanks, line ends and comments. -/
def gap (input : List Char) : Option (Remnant Unit input) := Reader.extend gapStep () input

/-- Reads one certain character. -/
def exactly (c : Char) : CharReader Unit := .symbol fun x => if x = c then some () else none

/-! ### Keys -/

/-- Characters of a key without quotes. -/
def isBareKey (c : Char) : Bool := c.isAlphanum || c = '-' || c = '_'

/-- One or more characters of a class. -/
def many (accept : Char → Bool) : CharReader (List Char)
  | [] => none
  | c :: rest =>
    if accept c then
      some ⟨c :: rest.takeWhile accept, rest.dropWhile accept,
        Nat.lt_succ_of_le (List.dropWhile_sublist _).length_le⟩
    else none

/-- A key without dots. -/
def simpleKey : CharReader String
  | '"' :: rest => basicString ('"' :: rest)
  | '\'' :: rest => literalString ('\'' :: rest)
  | input => (many isBareKey input).map (·.map String.ofList)

/-- A key without dots, with the blanks around it. -/
def spacedKey : CharReader String := fun input => do
  let blank := spaces input
  let key ← simpleKey blank.rest
  return (Read.after blank key).completedBy ((spaces key.rest).followedBy (.start key.value _))

/-- How many keys a dotted key may have, and how deep arrays and inline tables may be nested. -/
def depthLimit : Nat := 80

/-- A dotted key: the path to a table, and the key in it. -/
def keyPath : CharReader (List String × String) := fun input => do
  let keys ← Reader.separated (exactly '.') spacedKey input
  let key ← keys.value.getLast?
  if keys.value.length ≤ depthLimit then return keys.map fun ks => (ks.dropLast, key) else none

/-! ### Values -/

/-- Characters of a bare scalar. -/
def isScalarPart (c : Char) : Bool :=
  c.isAlphanum || c = '-' || c = '_' || c = '+' || c = '.' || c = ':'

/-- The time of day after a date and a blank. -/
def timeAfterDate (date : List Char) : CharReader (List Char)
  | ' ' :: rest => do
    let time ← many isScalarPart rest
    if takeDate? date = some [] ∧ isOffsetTime time.value then
      return (time.map fun t => date ++ ' ' :: t).tail ' '
    else none
  | _ => none

/-- A value without quotes or brackets. -/
def bareValue : CharReader Value := fun input => do
  let text ← many isScalarPart input
  match timeAfterDate text.value text.rest with
  | some full => return text.followedBy (full.map fun t => .moment (String.ofList t))
  | none => do
    let v ← scalar? text.value
    return text.map fun _ => v

/-- A value with what may stand around it in an array. -/
def arrayItem (nested : CharReader Value) : CharReader Value := fun input => do
  let before ← gap input
  let v ← nested before.rest
  let after ← gap v.rest
  return (Read.after before v).completedBy (after.followedBy (.start v.value _))

/-- The values of an array after its opening bracket.  A comma may stand after the last one. -/
def arrayRest (nested : CharReader Value) : CharReader (List Value) := fun input =>
  match Reader.separated (exactly ',') (arrayItem nested) input with
  | some items => do
    match exactly ',' items.rest with
    | some comma => do
      let blank ← gap comma.rest
      return items.closedBy (comma.followedBy (Read.after blank (← exactly ']' blank.rest)))
    | none => do
      let blank ← gap items.rest
      return items.closedBy (Read.after blank (← exactly ']' blank.rest))
  | none => do
    let blank ← gap input
    return (Read.after blank (← exactly ']' blank.rest)).map fun _ => []

/-- An assignment without the end of its line. -/
def assignment (nested : CharReader Value) : CharReader Assignment := fun input => do
  let key ← keyPath input
  let eq ← exactly '=' key.rest
  let blank := spaces eq.rest
  let v ← nested blank.rest
  return key.followedBy (eq.followedBy (Read.after blank
    (v.map fun v => ⟨key.value.1, key.value.2, v⟩)))

/-- An assignment inside an inline table, with the blanks after it. -/
def inlineAssignment (nested : CharReader Value) : CharReader Assignment := fun input => do
  let a ← assignment nested input
  return a.completedBy ((spaces a.rest).followedBy (.start a.value _))

/-- An inline table after its opening brace. -/
def inlineRest (nested : CharReader Value) : CharReader Value := fun input =>
  match Reader.separated (exactly ',') (inlineAssignment nested) input with
  | some items => do
    let close ← exactly '}' items.rest
    let entries ← assignAll [] items.value
    return (items.followedBy close).map fun _ => .table (complete entries)
  | none => do
    let blank := spaces input
    return (Read.after blank (← exactly '}' blank.rest)).map fun _ => .table []

/-- A value; `nested` reads the values inside arrays and inline tables, if they are allowed. -/
def valueWith (nested : Option (CharReader Value)) : CharReader Value
  | '[' :: rest => do
    let r ← arrayRest (← nested) rest
    return (r.map .array).tail '['
  | '{' :: rest => do
    let r ← inlineRest (← nested) rest
    return r.tail '{'
  | '"' :: rest => (anyString ('"' :: rest)).map (·.map .string)
  | '\'' :: rest => (anyString ('\'' :: rest)).map (·.map .string)
  | input => bareValue input

/-- Values with a bound on their depth. -/
def valueTo : Nat → CharReader Value
  | 0 => valueWith none
  | depth + 1 => valueWith (some (valueTo depth))

/-- A value. -/
def value : CharReader Value := valueTo depthLimit

/-! ### Lines -/

/-- A line of a document that says something. -/
inductive Line
  | assignment (a : Assignment)
  | table (path : List String) (key : String)
  | element (path : List String) (key : String)

/-- A line that says something, without its end. -/
def lineContent : CharReader Line
  | '[' :: '[' :: rest => do
    let key ← keyPath rest
    let a ← exactly ']' key.rest
    let b ← exactly ']' a.rest
    return ((key.followedBy (a.followedBy (b.map fun _ =>
      Line.element key.value.1 key.value.2))).tail '[').tail '['
  | '[' :: rest => do
    let key ← keyPath rest
    let a ← exactly ']' key.rest
    return (key.followedBy (a.map fun _ => Line.table key.value.1 key.value.2)).tail '['
  | input => (assignment value input).map (·.map .assignment)

/-- Blanks, an empty line or a comment, or a line that says something; `done` is in reverse. -/
def contentStep (done : List Line) (input : List Char) : Continuation (List Line) input :=
  match input with
  | [] => .stop
  | '#' :: rest =>
    match comment ('#' :: rest) with
    | none => .refuse
    | some c =>
      match lineEndOrEnd c.rest with
      | none => .refuse
      | some e => .next (c.completedBy (e.followedBy (.start done _)))
  | c :: rest =>
    if isSpace c then .next (.first done c rest)
    else match lineEnd (c :: rest) with
      | some e => .next (e.map fun _ => done)
      | none =>
        match lineContent (c :: rest) with
        | none => .refuse
        | some l =>
          match lineRest l.rest with
          | none => .refuse
          | some e => .next (l.completedBy (e.followedBy (.start (l.value :: done) _)))

/-- The lines of a text that say something.  A byte order mark may stand before them. -/
def lines? (text : List Char) : Option (List Line) := do
  let text := if text.head? = some '\ufeff' then text.tail else text
  let r ← Reader.extend contentStep [] text
  if r.rest.isEmpty then return r.value.reverse else none

/-! ### Documents -/

/-- The header of a section. -/
inductive Header
  | table (path : List String) (key : String)
  | element (path : List String) (key : String)

/-- The assignments before the first header, and the sections with their assignments. -/
structure Document where
  root : List Assignment
  sections : List (Header × List Assignment)

namespace Document

/-- Puts a line in front of a document. -/
def addLine (l : Line) (d : Document) : Document :=
  match l with
  | .assignment a => { d with root := a :: d.root }
  | .table path key => ⟨[], (.table path key, d.root) :: d.sections⟩
  | .element path key => ⟨[], (.element path key, d.root) :: d.sections⟩

/-- Sorts lines into sections. -/
def ofLines (lines : List Line) : Document := lines.foldr addLine ⟨[], []⟩

/-- Puts a section in its place. -/
def addSection (entries : Entries) (s : Header × List Assignment) : Option Entries :=
  match s.1 with
  | .table path key => atPath (openTable key s.2) path entries
  | .element path key => atPath (openElement key s.2) path entries

/-- The root table, unless the document defines a key twice. -/
def table? (d : Document) : Option Table := do
  let root ← assignAll [] d.root
  let entries ← d.sections.foldlM addSection root
  return complete entries

end Document

/-- The root table of a text, if the text is a document. -/
def parse (text : String) : Option Table := do
  (Document.ofLines (← lines? text.toList)).table?

end ReleaseArtifacts.Toml
