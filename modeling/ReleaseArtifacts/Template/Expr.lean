import ReleaseArtifacts.Reader
import ReleaseArtifacts.Template.Operator
import ReleaseArtifacts.Template.Token

namespace ReleaseArtifacts.Template

/-!
# Expressions

* `Expr` — the expressions of tags.  Names and literals know their line; a failure is reported on
  the line of the last of them before it (`Expr.lastLine`).
* `Expr.read` — reads an expression from tokens.  Filters and `is` bind tighter than `*`, then `~`,
  `+`, comparisons and `in`, `not`, `and`, `or`, and the choice with `if` and `else` least.

This is a part of the template language.  A difference, a quotient, a number with a fraction, a map, a
slice, an argument with a name and any test but that for being defined are read as malformed.
-/

/-- An expression. -/
inductive Expr
  | name (line : Nat) (x : String)
  | literal (line : Nat) (v : Value)
  | list (items : List Expr)
  | field (e : Expr) (name : String)
  | item (e key : Expr)
  | not (e : Expr)
  | negative (e : Expr)
  | binary (op : BinaryOp) (a b : Expr)
  | and (a b : Expr)
  | or (a b : Expr)
  | choice (yes condition no : Expr)
  | isDefined (e : Expr)
  | filter (name : String) (e : Expr) (arguments : List Expr)
  | call (function : String) (arguments : List Expr)
deriving Inhabited

mutual

/-- The line of the last name or literal of an expression; `line` if there is none. -/
def Expr.lastLine (line : Nat) : Expr → Nat
  | .name l _ => l
  | .literal l _ => l
  | .list items => Expr.lastLineOf line items
  | .field e _ => e.lastLine line
  | .item e key => key.lastLine (e.lastLine line)
  | .not e => e.lastLine line
  | .negative e => e.lastLine line
  | .binary _ a b => b.lastLine (a.lastLine line)
  | .and a b => b.lastLine (a.lastLine line)
  | .or a b => b.lastLine (a.lastLine line)
  | .choice yes condition no => no.lastLine (yes.lastLine (condition.lastLine line))
  | .isDefined e => e.lastLine line
  | .filter _ e arguments => Expr.lastLineOf (e.lastLine line) arguments
  | .call _ arguments => Expr.lastLineOf line arguments

/-- The line of the last name or literal of several expressions. -/
def Expr.lastLineOf (line : Nat) : List Expr → Nat
  | [] => line
  | e :: rest => Expr.lastLineOf (e.lastLine line) rest

end

namespace Expr

/-! ### Readers for the parts of expressions -/

/-- A reader of expressions from tokens. -/
abbrev ExprReader := Reader Lexeme Expr

/-- Whether a token is a certain symbol. -/
def isSymbolToken (c : Char) (l : Lexeme) : Bool := l.token == .symbol c

/-- Whether a token is a certain word. -/
def isWordToken (w : String) (l : Lexeme) : Bool := l.token == .word w

/-- Reads one certain symbol. -/
def expectSymbol (c : Char) : Reader Lexeme Unit :=
  .symbol fun l => if isSymbolToken c l then some () else none

/-- Reads one certain word. -/
def expectWord (w : String) : Reader Lexeme Unit :=
  .symbol fun l => if isWordToken w l then some () else none

/-- Reads any word. -/
def anyWord : Reader Lexeme String :=
  .symbol fun l => match l.token with
    | .word w => some w
    | _ => none

/-- The words that stand for a value of their own. -/
def constants : List (String × Value) :=
  [("true", .boolean true), ("True", .boolean true), ("false", .boolean false),
    ("False", .boolean false), ("none", .none), ("None", .none)]

/-- What a single token is as an expression: words for constants, other words as names, numbers and
    quotations. -/
def ofLexeme (l : Lexeme) : Option Expr :=
  match l.token with
  | .word x =>
    match constants.lookup x with
    | some v => some (literal l.line v)
    | none => some (name l.line x)
  | .number n => some (literal l.line (.number n))
  | .quotation s => some (literal l.line (.text s))
  | _ => none

/-- Expressions between commas and before a closing symbol.  A comma may stand after the last
one. -/
def listUntil (close : Char) (nested : ExprReader) : Reader Lexeme (List Expr) := fun input =>
  match expectSymbol close input with
  | some r => some (r.map fun _ => [])
  | none => do
    let items ← Reader.separated (expectSymbol ',') nested input
    match expectSymbol ',' items.rest with
    | some comma => return items.closedBy (comma.followedBy (← expectSymbol close comma.rest))
    | none => return items.closedBy (← expectSymbol close items.rest)

/-- Names, literals, lists and expressions in parentheses. -/
def primary (nested : ExprReader) : ExprReader
  | [] => none
  | l :: rest =>
    if isSymbolToken '(' l then do
      let e ← nested rest
      return (e.closedBy (← expectSymbol ')' e.rest)).tail l
    else if isSymbolToken '[' l then do
      return ((← listUntil ']' nested rest).map list).tail l
    else (ofLexeme l).map (.first · l rest)

/-- The call of what stands before the parentheses; only names can be called. -/
def called (e : Expr) (arguments : List Expr) : Option Expr :=
  match e with
  | name _ f => some (call f arguments)
  | _ => none

/-- A field, an item or a call after an expression. -/
def suffixStep (nested : ExprReader) (e : Expr) : (input : List Lexeme) → Continuation Expr input
  | [] => .stop
  | l :: input =>
    if isSymbolToken '.' l then
      match anyWord input with
      | none => .refuse
      | some w => .next ((w.map (field e)).tail l)
    else if isSymbolToken '[' l then
      match nested input with
      | none => .refuse
      | some key =>
        match expectSymbol ']' key.rest with
        | none => .refuse
        | some r => .next (((key.closedBy r).map (item e)).tail l)
    else if isSymbolToken '(' l then
      match listUntil ')' nested input with
      | none => .refuse
      | some arguments =>
        match called e arguments.value with
        | none => .refuse
        | some e => .next ((arguments.map fun _ => e).tail l)
    else .stop

/-- What a test after `is` makes of an expression. -/
def definedness (e : Expr) : String → Option Expr
  | "defined" => some (isDefined e)
  | "undefined" => some (not (isDefined e))
  | _ => none

/-- A test after `is`, with or without `not`. -/
def test (e : Expr) : ExprReader := fun input =>
  match expectWord "not" input with
  | some r => do
    let w ← anyWord r.rest
    let e ← definedness e w.value
    return (r.followedBy w).map fun _ => not e
  | none => do
    let w ← anyWord input
    let e ← definedness e w.value
    return w.map fun _ => e

/-- A filter: its name, and its arguments if it has any. -/
def filtered (nested : ExprReader) (e : Expr) : ExprReader := fun input => do
  let w ← anyWord input
  match expectSymbol '(' w.rest with
  | some r => do
    let arguments ← listUntil ')' nested r.rest
    return w.followedBy (r.followedBy (arguments.map (filter w.value e)))
  | none => return w.map fun f => filter f e []

/-- A filter or a test after an expression. -/
def filterStep (nested : ExprReader) (e : Expr) : (input : List Lexeme) → Continuation Expr input
  | [] => .stop
  | l :: input =>
    if isSymbolToken '|' l then
      match filtered nested e input with
      | none => .refuse
      | some r => .next (r.tail l)
    else if isWordToken "is" l then
      match test e input with
      | none => .refuse
      | some r => .next (r.tail l)
    else .stop

/-- A primary expression under signs. -/
def signed (nested : ExprReader) : ExprReader
  | [] => none
  | l :: rest =>
    if isSymbolToken '-' l then do
      return ((← signed nested rest).map negative).tail l
    else primary nested (l :: rest)

/-- An operand: a signed expression with everything that stands after it. -/
def operand (nested : ExprReader) : ExprReader := fun input => do
  let e ← signed nested input
  let suffixed ← Reader.extend (suffixStep nested) e.value e.rest
  let filtered ← Reader.extend (filterStep nested) suffixed.value suffixed.rest
  return e.completedBy (suffixed.followedBy filtered)

/-! ### Operators by how tight they bind -/

/-- The operator that a token writes, among some. -/
def operatorOf (table : List (Token × BinaryOp)) (l : Lexeme) : Option (Expr → Expr → Expr) :=
  (table.lookup l.token).map fun op => binary op

/-- Products. -/
def products (nested : ExprReader) : ExprReader :=
  Reader.leftChain (operand nested) (operatorOf [(.symbol '*', .times)])

/-- Joined texts. -/
def joins (nested : ExprReader) : ExprReader :=
  Reader.leftChain (products nested) (operatorOf [(.symbol '~', .join)])

/-- Sums. -/
def sums (nested : ExprReader) : ExprReader :=
  Reader.leftChain (joins nested) (operatorOf [(.symbol '+', .add)])

/-- The operators that compare. -/
def comparisonTable : List (Token × BinaryOp) :=
  [(.equal, .equal), (.unequal, .unequal), (.symbol '<', .less), (.symbol '>', .greater),
    (.word "in", .within)]

/-- A comparison after its first operand; `not in` is the negation of `in`. -/
def comparisonStep (nested : ExprReader) (left : Expr) :
    (input : List Lexeme) → Continuation Expr input
  | [] => .stop
  | l :: input =>
    if isWordToken "not" l then
      match expectWord "in" input with
      | none => .refuse
      | some w =>
        match sums nested w.rest with
        | none => .refuse
        | some right =>
          .next (((w.followedBy right).map fun e => not (binary .within left e)).tail l)
    else Reader.chainStep (sums nested) (operatorOf comparisonTable) left (l :: input)

/-- Comparisons. -/
def comparisons (nested : ExprReader) : ExprReader := fun input => do
  let first ← sums nested input
  let all ← Reader.extend (comparisonStep nested) first.value first.rest
  return first.completedBy all

/-- A comparison under negations. -/
def negations (nested : ExprReader) : ExprReader
  | [] => none
  | l :: rest =>
    if isWordToken "not" l then do
      return ((← negations nested rest).map not).tail l
    else comparisons nested (l :: rest)

/-- Conjunctions. -/
def conjunctions (nested : ExprReader) : ExprReader :=
  Reader.leftChain (negations nested) fun l => if isWordToken "and" l then some and else none

/-- Disjunctions. -/
def disjunctions (nested : ExprReader) : ExprReader :=
  Reader.leftChain (conjunctions nested) fun l => if isWordToken "or" l then some or else none

/-- The condition of a choice, between `if` and `else`. -/
def condition (nested : ExprReader) : ExprReader := fun input => do
  let i ← expectWord "if" input
  let c ← disjunctions nested i.rest
  return i.followedBy (c.closedBy (← expectWord "else" c.rest))

/-- Disjunctions, or choices between them that group to the right. -/
def choices (nested : ExprReader) (input : List Lexeme) : Option (Read Expr input) :=
  match disjunctions nested input with
  | none => none
  | some yes =>
    match expectWord "if" yes.rest with
    | none => some yes
    | some _ =>
      match condition nested yes.rest with
      | none => none
      | some c =>
        (choices nested (yes.followedBy c).rest).map fun no =>
          (yes.followedBy c).followedBy (no.map (choice yes.value c.value))
termination_by input.length
decreasing_by exact (yes.followedBy c).shorter

/-- How deep brackets and parentheses may be nested in one tag. -/
def nestingLimit : Nat := 150

/-- Expressions with a bound on the nesting of brackets. -/
def nestedTo : Nat → ExprReader
  | 0 => fun _ => none
  | depth + 1 => choices (nestedTo depth)

/-- An expression. -/
def read : ExprReader := nestedTo nestingLimit

/-- An expression without a choice at its top: what a loop runs over, so that the `if` of a loop
    stays its own. -/
def readDisjunction : ExprReader := disjunctions (nestedTo (nestingLimit - 1))

end Expr

end ReleaseArtifacts.Template
