import ReleaseArtifacts.Template.Line
import ReleaseArtifacts.Text.Blank

namespace ReleaseArtifacts.Template

/-!
# Pieces of a template

A template is literal text with tags in it: output tags between doubled braces, block tags between
braces with a percent sign, comments between braces with a hash.  This module splits the text; it
looks at one character at a time and never back.

* `Scanner.step` — one character of the source.  `Scanner.run` over a text is a fold of it, so
  scanning two texts one after the other is scanning their concatenation (`Scanner.run_append`).
* `Source` — the tags with the literal text before each of them, and the text after the last one.
* `Source.items` — the same after the line rules: `trimmed` says what a tag takes from the blanks
  and the line end beside it.
-/

/-- What a tag does to the blanks on one of its sides: the line rules decide, all stay, or all
go. -/
inductive Edge
  | lines | keep | strip
deriving DecidableEq, Repr

/-- The kinds of tags.  A verbatim tag opens or closes a section without tags. -/
inductive TagKind
  | output | block | comment | verbatim
deriving DecidableEq, Repr

/-- A tag with the line its delimiter stands on. -/
structure Tag where
  kind : TagKind
  line : Nat
  opening : Edge
  closing : Edge
  body : List Char
deriving DecidableEq, Repr

/-! ### Scanning -/

/-- A tag that has been opened, with the literal text before it in reverse. -/
structure Opening where
  before : List Char
  kind : TagKind
  edge : Edge
  line : Nat
deriving DecidableEq, Repr

/-- Where in a template the scanner is.  Texts that grow are in reverse. -/
inductive Mode
  /-- in literal text -/
  | text (s : List Char)
  /-- in literal text, after a brace that may open a tag -/
  | brace (s : List Char)
  /-- right after a delimiter -/
  | opened (o : Opening)
  /-- inside a tag -/
  | inside (o : Opening) (body : List Char)
  /-- inside a quotation in a tag -/
  | quotation (o : Opening) (body : List Char) (quote : Char) (escaped : Bool)
  /-- in a verbatim section -/
  | verbatim (s : List Char)
  /-- in a verbatim section, after a brace -/
  | verbatimBrace (s : List Char)
  /-- in a verbatim section, inside what may be its closing tag -/
  | verbatimTag (s : List Char) (line : Nat) (body : List Char)
deriving DecidableEq, Repr

/-- The literal text before a tag, and the tag. -/
abbrev Chunk := List Char × Tag

/-- The mark that a delimiter may carry. -/
def edgeOf : Char → Option Edge
  | '-' => some .strip
  | '+' => some .keep
  | _ => none

/-- Takes the mark off the front of a text. -/
def takeEdge : List Char → Edge × List Char
  | [] => (.lines, [])
  | c :: rest =>
    match edgeOf c with
    | some e => (e, rest)
    | none => (.lines, c :: rest)

/-- The character before the brace in a closing delimiter. -/
def TagKind.closer : TagKind → Char
  | output => '}'
  | block => '%'
  | comment => '#'
  | verbatim => '%'

/-- A tag's body without the blanks around it. -/
def bare (body : List Char) : List Char :=
  ((body.dropWhile Text.isAsciiBlank).reverse.dropWhile Text.isAsciiBlank).reverse

/-- Closes a tag: `body` is in reverse and without the delimiter. -/
def Opening.close (o : Opening) (body : List Char) : Mode × Chunk :=
  let (closing, rest) := takeEdge body
  let inner := rest.reverse
  if o.kind = .block ∧ bare inner = ['r', 'a', 'w'] then
    (.verbatim [], (o.before.reverse, ⟨.verbatim, o.line, o.edge, closing, inner⟩))
  else (.text [], (o.before.reverse, ⟨o.kind, o.line, o.edge, closing, inner⟩))

/-- The tag that ends a verbatim section; `body` is in reverse and with the character before the
    last brace. -/
def verbatimEnd? (line : Nat) (body : List Char) : Option Tag :=
  match body with
  | '%' :: rest =>
    let (closing, rest) := takeEdge rest
    let (opening, inner) := takeEdge rest.reverse
    if bare inner = ['e', 'n', 'd', 'r', 'a', 'w'] then
      some ⟨.verbatim, line, opening, closing, inner⟩
    else none
  | _ => none

/-- Inside a tag, at its first or a later character. -/
def insideNext (o : Opening) (body : List Char) (c : Char) : Mode × Option Chunk :=
  if c = '}' ∧ body.head? = some o.kind.closer then
    let (mode, chunk) := o.close body.tail
    (mode, some chunk)
  else if o.kind ≠ .comment ∧ (c = '"' ∨ c = '\'') then (.quotation o (c :: body) c false, none)
  else (.inside o (c :: body), none)

/-- One character: where the scanner is after it, and the tag that it closed. -/
def Mode.next (line : Nat) (c : Char) : Mode → Mode × Option Chunk
  | text s => (if c = '{' then brace s else text (c :: s), none)
  | brace s =>
    match c with
    | '{' => (opened ⟨s, .output, .lines, line⟩, none)
    | '%' => (opened ⟨s, .block, .lines, line⟩, none)
    | '#' => (opened ⟨s, .comment, .lines, line⟩, none)
    | c => (text (c :: '{' :: s), none)
  | opened o =>
    match edgeOf c with
    | some edge => (inside { o with edge } [], none)
    | none => insideNext o [] c
  | inside o body => insideNext o body c
  | quotation o body quote escaped =>
    if escaped then (quotation o (c :: body) quote false, none)
    else if c = '\\' then (quotation o (c :: body) quote true, none)
    else if c = quote then (inside o (c :: body), none)
    else (quotation o (c :: body) quote false, none)
  | verbatim s => (if c = '{' then verbatimBrace s else verbatim (c :: s), none)
  | verbatimBrace s =>
    if c = '%' then (verbatimTag s line [], none)
    else if c = '{' then (verbatimBrace ('{' :: s), none)
    else (verbatim (c :: '{' :: s), none)
  | verbatimTag s began body =>
    if c = '}' then
      match verbatimEnd? began body with
      | some tag => (text [], some (s.reverse, tag))
      | none => (verbatim ('}' :: body ++ '%' :: '{' :: s), none)
    else if c = '{' then (verbatimBrace (body ++ '%' :: '{' :: s), none)
    else (verbatimTag s began (c :: body), none)

/-- The state of the scanner: the line it is on, the chunks before it in reverse, and its mode. -/
structure Scanner where
  line : Nat
  done : List Chunk
  mode : Mode
deriving DecidableEq, Repr

namespace Scanner

/-- The scanner before the first character. -/
def start : Scanner := ⟨1, [], .text []⟩

/-- One character of the source. -/
def step (s : Scanner) (c : Char) : Scanner :=
  let (mode, chunk) := s.mode.next s.line c
  ⟨lineAfter s.line c, chunk.toList ++ s.done, mode⟩

/-- A part of the source. -/
def run (s : Scanner) (source : List Char) : Scanner := source.foldl step s

/-- Scanning goes on where it stopped. -/
theorem run_append (s : Scanner) (a b : List Char) : s.run (a ++ b) = (s.run a).run b :=
  List.foldl_append

end Scanner

/-- A template split into chunks, and the literal text after the last tag. -/
structure Source where
  chunks : List Chunk
  last : List Char
deriving DecidableEq, Repr

/-- The source that has been scanned, unless a tag or a verbatim section is still open. -/
def Scanner.finish (s : Scanner) : Option Source :=
  match s.mode with
  | .text t => some ⟨s.done.reverse, t.reverse⟩
  | .brace t => some ⟨s.done.reverse, ('{' :: t).reverse⟩
  | _ => none

/-- Splits a template. -/
def Source.scan (source : List Char) : Option Source :=
  (Scanner.start.run source).finish

/-! ### Line rules -/

/-- Ends of lines, for the rule on blanks before a tag. -/
def isLineEnd (c : Char) : Bool := c = '\n' || c = '\r'

/-- A text without the line end it starts with. -/
def dropLineEnd : List Char → List Char
  | '\n' :: rest => rest
  | '\r' :: '\n' :: rest => rest
  | s => s

/-- A text without the blanks it ends with, if they are all there is on its last line.  A text that
    is not the first of its source has a tag before it on that line. -/
def dropIndent (first : Bool) (s : List Char) : List Char :=
  let kept := s.reverse.dropWhile fun c => Text.isBlank c && !isLineEnd c
  match kept with
  | [] => if first then [] else s
  | c :: _ => if isLineEnd c then kept.reverse else s

/-- What the tag after a text leaves of it. -/
def beforeTag (first : Bool) (tag : Tag) (s : List Char) : List Char :=
  match tag.opening with
  | .strip => Text.trimEnd s
  | .keep => s
  | .lines => if tag.kind = .output then s else dropIndent first s

/-- What the tag before a text leaves of it. -/
def afterTag (tag : Tag) (s : List Char) : List Char :=
  match tag.closing with
  | .strip => Text.trimStart s
  | .keep => s
  | .lines => if tag.kind = .output then s else dropLineEnd s

/-- A literal text between two tags, or at an end of the source. -/
def trimmed (previous next : Option Tag) (s : List Char) : List Char :=
  let s := match next with
    | some tag => beforeTag previous.isNone tag s
    | none => s
  match previous with
  | some tag => afterTag tag s
  | none => s

/-- A template as it is evaluated: text to emit, and tags. -/
inductive Item
  | text (s : List Char)
  | tag (t : Tag)
deriving DecidableEq, Repr

/-- The items from a tag on; `previous` is the tag before. -/
def itemsFrom (previous : Option Tag) (last : List Char) : List Chunk → List Item
  | [] => [.text (trimmed previous none last)]
  | (s, tag) :: rest =>
    .text (trimmed previous (some tag) s) :: .tag tag :: itemsFrom (some tag) last rest

/-- The items of a template. -/
def Source.items (s : Source) : List Item := itemsFrom none s.last s.chunks

end ReleaseArtifacts.Template
