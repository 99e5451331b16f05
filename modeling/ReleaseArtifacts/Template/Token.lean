import ReleaseArtifacts.Template.Line
import ReleaseArtifacts.Text.Blank
import ReleaseArtifacts.Text.Hexadecimal

namespace ReleaseArtifacts.Template

open Text (hexNumber? charOf?)

/-!
# Tokens of a tag

The inside of an output or block tag is a sequence of words, whole numbers, quotations and symbols
with blanks between them.

* `Lexer.step` — one character; `Lexer.run` folds it over the tag.
* `lexemes` — the tokens of a tag, each with its line.
* `unescape` — the text of a quotation.
-/

/-- The smallest parts of an expression. -/
inductive Token
  | word (s : String)
  | number (n : Nat)
  | quotation (s : String)
  | symbol (c : Char)
  | equal
  | unequal
deriving DecidableEq, Repr

/-- A token and its line. -/
structure Lexeme where
  token : Token
  line : Nat
deriving DecidableEq, Repr

/-! ### Quotations -/

/-- The character of a single letter after a backslash. -/
def letterEscape? : Char → Option Char
  | '"' => some '"'
  | '\\' => some '\\'
  | '/' => some '/'
  | '\'' => some '\''
  | 'b' => some '\x08'
  | 'f' => some '\x0c'
  | 'n' => some '\n'
  | 'r' => some '\r'
  | 't' => some '\t'
  | _ => none

/-- The character of two escaped units that make a pair. -/
def pairChar? (high low : Nat) : Option Char :=
  if 0xd800 ≤ high ∧ high < 0xdc00 ∧ 0xdc00 ≤ low ∧ low < 0xe000 then
    charOf? (0x10000 + (high - 0xd800) * 0x400 + (low - 0xdc00))
  else none

/-- The text that a quotation writes. -/
def unescape : List Char → Option (List Char)
  | [] => some []
  | '\\' :: 'u' :: a :: b :: c :: d :: rest => do
    let code ← hexNumber? [a, b, c, d]
    match charOf? code with
    | some ch => (unescape rest).map (ch :: ·)
    | none =>
      match rest with
      | '\\' :: 'u' :: e :: f :: g :: h :: rest => do
        let ch ← pairChar? code (← hexNumber? [e, f, g, h])
        (unescape rest).map (ch :: ·)
      | _ => none
  | '\\' :: c :: rest => do
    let ch ← letterEscape? c
    (unescape rest).map (ch :: ·)
  | c :: rest => if c = '\\' then none else (unescape rest).map (c :: ·)

/-! ### The lexer -/

/-- Characters that start a word. -/
def isWordStart (c : Char) : Bool := c.isAlpha || c = '_'

/-- Characters that a word goes on with. -/
def isWordPart (c : Char) : Bool := isWordStart c || c.isDigit

/-- Characters that stand for themselves. -/
def isSymbol (c : Char) : Bool := "+-*~<>|.,()[]".toList.contains c

/-- A token that is not complete yet, with the line it began on.  Texts are in reverse. -/
inductive Unfinished
  | nothing
  | word (s : List Char) (line : Nat)
  | number (n : Nat) (line : Nat)
  | quotation (quote : Char) (s : List Char) (escaped : Bool) (line : Nat)
  | operator (c : Char) (line : Nat)
deriving DecidableEq, Repr

/-- The state of the lexer: the line, the tokens before in reverse, and the one being read. -/
structure Lexer where
  line : Nat
  done : List Lexeme
  current : Unfinished
deriving DecidableEq, Repr

namespace Lexer

/-- The lexer before the first character of a tag. -/
def start (line : Nat) : Lexer := ⟨line, [], .nothing⟩

/-- A complete token. -/
def push (l : Lexer) (token : Token) (line : Nat) : Lexer :=
  { l with done := ⟨token, line⟩ :: l.done, current := .nothing }

/-- A character where a token may begin. -/
def begin (l : Lexer) (c : Char) : Option Lexer :=
  if Text.isAsciiBlank c then some { l with current := .nothing }
  else if isWordStart c then some { l with current := .word [c] l.line }
  else if c.isDigit then some { l with current := .number (c.toNat - 48) l.line }
  else if c = '"' ∨ c = '\'' then some { l with current := .quotation c [] false l.line }
  else if c = '=' ∨ c = '!' then some { l with current := .operator c l.line }
  else if isSymbol c then some (l.push (.symbol c) l.line)
  else none

/-- Completes the token that ends before a character of another kind. -/
def settle (l : Lexer) : Option Lexer :=
  match l.current with
  | .nothing => some l
  | .word s line => some (l.push (.word (String.ofList s.reverse)) line)
  | .number n line => if n < Nat.pow 2 128 then some (l.push (.number n) line) else none
  | .operator '=' line => some (l.push (.symbol '=') line)
  | _ => none

/-- One character, apart from the count of lines. -/
def read (l : Lexer) (c : Char) : Option Lexer :=
  match l.current with
  | .word s line =>
    if isWordPart c then some { l with current := .word (c :: s) line }
    else do (← l.settle).begin c
  | .number n line =>
    if c.isDigit then some { l with current := .number (10 * n + (c.toNat - 48)) line }
    else do (← l.settle).begin c
  | .quotation quote s escaped line =>
    if escaped then some { l with current := .quotation quote (c :: s) false line }
    else if c = '\\' then some { l with current := .quotation quote (c :: s) true line }
    else if c = quote then do
      return l.push (.quotation (String.ofList (← unescape s.reverse))) line
    else some { l with current := .quotation quote (c :: s) false line }
  | .operator first line =>
    if c = '=' then some (l.push (if first = '=' then .equal else .unequal) line)
    else do (← l.settle).begin c
  | .nothing => l.begin c

/-- One character. -/
def step (l : Lexer) (c : Char) : Option Lexer :=
  (l.read c).map fun l => { l with line := lineAfter l.line c }

/-- A part of a tag. -/
def run (l : Lexer) (body : List Char) : Option Lexer := body.foldlM step l

end Lexer

/-- The tokens of a tag that begins on `line`. -/
def lexemes (line : Nat) (body : List Char) : Option (List Lexeme) := do
  let l ← (Lexer.start line).run body
  return (← l.settle).done.reverse

end ReleaseArtifacts.Template
