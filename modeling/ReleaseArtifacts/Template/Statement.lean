import ReleaseArtifacts.Template.Expr
import ReleaseArtifacts.Template.Piece

namespace ReleaseArtifacts.Template

/-!
# Statements

* `Statement` — what a template does, with the blocks of branches and loops inside it.
* `Keyword` — a block tag; `Keyword.read` reads one from its tokens.
* `Builder.step` — one item of a template.  `Builder.run` folds it over the items, and the open
  blocks are a stack in its state.
* `Statement.parse` — the statements of a template text.

Blocks are conditions, loops and verbatim sections; the other blocks of the template language, such as
macros and filtered sections, are read as malformed.
-/

/-- What a template does. -/
inductive Statement
  | text (s : String)
  | output (line : Nat) (e : Expr)
  | assign (line : Nat) (name : String) (e : Expr)
  | branch (line : Nat) (condition : Expr) (yes no : List Statement)
  | loop (line : Nat) (target : String) (source : Expr) (keep : Option Expr)
      (body otherwise : List Statement)
deriving Inhabited

/-! ### Block tags -/

/-- A block tag. -/
inductive Keyword
  | loop (target : String) (source : Expr) (keep : Option Expr)
  | condition (e : Expr)
  | orCondition (e : Expr)
  | otherwise
  | endCondition
  | endLoop
  | assign (name : String) (e : Expr)

/-- Names that a template cannot bind. -/
def reservedNames : List String :=
  ["true", "True", "false", "False", "none", "None", "loop", "self"]

/-- A name that a tag binds. -/
def bindable (name : String) : Option String :=
  if reservedNames.contains name then none else some name

namespace Keyword

/-- The value of a reader that has taken everything. -/
def complete {α : Type} {input : List Lexeme} (r : Read α input) : Option α :=
  if r.rest.isEmpty then some r.value else none

/-- A whole tag or the rest of one as an expression. -/
def wholeExpr (input : List Lexeme) : Option Expr := do
  complete (← Expr.read input)

/-- A loop after its first word. -/
def readLoop (input : List Lexeme) : Option Keyword := do
  let target ← Expr.anyWord input
  let name ← bindable target.value
  let i ← Expr.expectWord "in" target.rest
  let source ← Expr.readDisjunction i.rest
  match Expr.expectWord "if" source.rest with
  | some c => return .loop name source.value (some (← wholeExpr c.rest))
  | none => return .loop name (← complete source) none

/-- An assignment after its first word. -/
def readAssign (input : List Lexeme) : Option Keyword := do
  let target ← Expr.anyWord input
  let name ← bindable target.value
  let eq ← Expr.expectSymbol '=' target.rest
  return .assign name (← wholeExpr eq.rest)

/-- A tag that consists of its word. -/
def alone (k : Keyword) (input : List Lexeme) : Option Keyword :=
  if input.isEmpty then some k else none

/-- Reads a block tag. -/
def read : List Lexeme → Option Keyword
  | [] => none
  | l :: rest =>
    match l.token with
    | .word "for" => readLoop rest
    | .word "if" => (wholeExpr rest).map .condition
    | .word "elif" => (wholeExpr rest).map .orCondition
    | .word "else" => alone .otherwise rest
    | .word "endif" => alone .endCondition rest
    | .word "endfor" => alone .endLoop rest
    | .word "set" => readAssign rest
    | _ => none

end Keyword

/-! ### Blocks -/

/-- A condition with the statements under it. -/
structure Arm where
  line : Nat
  condition : Expr
  body : List Statement

/-- A block that is still open.  Finished arms are in reverse. -/
inductive Block
  /-- the statements under a condition are being read -/
  | arm (finished : List Arm) (line : Nat) (condition : Expr)
  /-- the statements under no condition are being read -/
  | otherwise (finished : List Arm)
  /-- the body of a loop is being read -/
  | loop (line : Nat) (target : String) (source : Expr) (keep : Option Expr)
  /-- the statements for an empty loop are being read -/
  | empty (line : Nat) (target : String) (source : Expr) (keep : Option Expr)
      (body : List Statement)

/-- The open blocks, each with the statements before it, and the statements of the innermost one.
    Statements are in reverse. -/
structure Builder where
  levels : List (Block × List Statement)
  current : List Statement

/-- Arms as one branch inside the other. -/
def branches (finished : List Arm) (otherwise : List Statement) : List Statement :=
  finished.foldl (fun no arm => [.branch arm.line arm.condition arm.body no]) otherwise

namespace Builder

/-- Nothing read yet. -/
def start : Builder := ⟨[], []⟩

/-- A statement that is complete. -/
def add (b : Builder) (s : Statement) : Builder := { b with current := s :: b.current }

/-- Opens a block. -/
def enter (b : Builder) (block : Block) : Builder := ⟨(block, b.current) :: b.levels, []⟩

/-- A block tag on a line. -/
def keyword (b : Builder) (line : Nat) (k : Keyword) : Option Builder :=
  match k, b.levels with
  | .assign name e, _ => some (b.add (.assign line name e))
  | .condition e, _ => some (b.enter (.arm [] line e))
  | .loop target source keep, _ => some (b.enter (.loop line target source keep))
  | .orCondition e, (.arm finished l c, before) :: levels =>
    some ⟨(.arm (⟨l, c, b.current.reverse⟩ :: finished) line e, before) :: levels, []⟩
  | .otherwise, (.arm finished l c, before) :: levels =>
    some ⟨(.otherwise (⟨l, c, b.current.reverse⟩ :: finished), before) :: levels, []⟩
  | .otherwise, (.loop l target source keep, before) :: levels =>
    some ⟨(.empty l target source keep b.current.reverse, before) :: levels, []⟩
  | .endCondition, (.arm finished l c, before) :: levels =>
    some ⟨levels, branches (⟨l, c, b.current.reverse⟩ :: finished) [] ++ before⟩
  | .endCondition, (.otherwise finished, before) :: levels =>
    some ⟨levels, branches finished b.current.reverse ++ before⟩
  | .endLoop, (.loop l target source keep, before) :: levels =>
    some ⟨levels, .loop l target source keep b.current.reverse [] :: before⟩
  | .endLoop, (.empty l target source keep body, before) :: levels =>
    some ⟨levels, .loop l target source keep body b.current.reverse :: before⟩
  | _, _ => none

/-- A tag. -/
def tag (b : Builder) (t : Tag) : Option Builder :=
  match t.kind with
  | .comment => some b
  | .verbatim => some b
  | .output => do
    return b.add (.output t.line (← Keyword.wholeExpr (← lexemes t.line t.body)))
  | .block => do
    b.keyword t.line (← Keyword.read (← lexemes t.line t.body))

/-- One item of a template. -/
def step (b : Builder) : Item → Option Builder
  | .text s => some (b.add (.text (String.ofList s)))
  | .tag t => b.tag t

/-- Some items of a template. -/
def run (b : Builder) (items : List Item) : Option Builder := items.foldlM step b

/-- The statements, unless a block is still open. -/
def finish (b : Builder) : Option (List Statement) :=
  if b.levels.isEmpty then some b.current.reverse else none

end Builder

/-- The statements of a template text. -/
def Statement.parse (source : String) : Option (List Statement) := do
  let s ← Source.scan source.toList
  let b ← Builder.start.run s.items
  b.finish

end ReleaseArtifacts.Template
