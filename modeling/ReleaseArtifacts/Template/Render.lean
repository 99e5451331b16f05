import ReleaseArtifacts.Template.Call
import ReleaseArtifacts.Template.Statement

namespace ReleaseArtifacts.Template

/-!
# Rendering

* `Scope` — what the names stand for: the frames of the open loops, and the global names.
* `Expr.eval` — the value of an expression; a failure names the line it is reported on.
* `Statement.run` — what a statement prints, and the scope after it.
* `render` — the text of a whole template.
-/

/-- The names bound at one level: by assignments and by the loop that the level belongs to. -/
structure Frame where
  bound : List (String × Value)
  loop : Option Value

/-- What names stand for.  Inner frames hide outer ones, and all of them hide the globals. -/
structure Scope where
  top : Frame
  outer : List Frame
  globals : List (String × Value)

/-- What a name stands for in a frame. -/
def Frame.find (f : Frame) (x : String) : Option Value :=
  match f.bound.lookup x with
  | some v => some v
  | none => if x = "loop" then f.loop else none

namespace Scope

/-- A scope with nothing but global names. -/
def ofGlobals (globals : List (String × Value)) : Scope := ⟨⟨[], none⟩, [], globals⟩

/-- What a name stands for; `undefined` if it is unknown. -/
def find (s : Scope) (x : String) : Value :=
  match (s.top :: s.outer).findSome? (·.find x) with
  | some v => v
  | none => (s.globals.lookup x).getD .undefined

/-- Binds a name at the innermost level. -/
def bind (s : Scope) (x : String) (v : Value) : Scope :=
  { s with top := { s.top with bound := (x, v) :: s.top.bound } }

/-- A new innermost level. -/
def enter (s : Scope) : Scope :=
  { s with top := ⟨[], none⟩, outer := s.top :: s.outer }

/-- The innermost level at an item of its loop. -/
def advance (s : Scope) (target : String) (v loop : Value) : Scope :=
  { s with top := ⟨(target, v) :: s.top.bound, some loop⟩ }

end Scope

/-- Reports the failure of an operation on a line. -/
def located {α : Type} (line : Nat) (r : Except Failure α) : Except Stop α :=
  r.mapError (⟨line, ·⟩)

/-- Something undefined cannot be looked into. -/
def defined (v : Value) : Except Failure Unit :=
  match v with
  | .undefined => .error .undefinedValue
  | _ => .ok ()

/-- A function call: a name that is bound to a value hides the function. -/
def callNamed (scope : Scope) (function : String) (arguments : List Value) : Except Failure Value :=
  match scope.find function with
  | .undefined => callFunction function arguments
  | v => .error (.notCallable v.kind)

/-! ### Expressions -/

mutual

/-- The value of an expression. -/
def Expr.eval (scope : Scope) (line : Nat) : Expr → Except Stop Value
  | .name _ x => .ok (scope.find x)
  | .literal _ v => .ok v
  | .list items => return .list (← Expr.evalAll scope line items)
  | .field e x => do
    let v ← e.eval scope line
    located (e.lastLine line) (defined v)
    return v.field x
  | .item e key => do
    let v ← e.eval scope line
    let k ← key.eval scope (e.lastLine line)
    located (key.lastLine (e.lastLine line)) (defined v)
    return v.item k
  | .not e => do
    let v ← e.eval scope line
    return .boolean (!(← located (e.lastLine line) (truth v)))
  | .negative e => do
    let v ← e.eval scope line
    located (e.lastLine line) (negated v)
  | .binary op a b => do
    let v ← a.eval scope line
    let w ← b.eval scope (a.lastLine line)
    located (b.lastLine (a.lastLine line)) (op.apply v w)
  | .and a b => do
    let v ← a.eval scope line
    if ← located (a.lastLine line) (truth v) then b.eval scope (a.lastLine line) else return v
  | .or a b => do
    let v ← a.eval scope line
    if ← located (a.lastLine line) (truth v) then return v else b.eval scope (a.lastLine line)
  | .choice a c b => do
    let v ← c.eval scope line
    let after := c.lastLine line
    if ← located after (truth v) then a.eval scope after
    else b.eval scope (a.lastLine after)
  | .isDefined e => do
    match ← e.eval scope line with
    | .undefined => return .boolean false
    | _ => return .boolean true
  | .filter f e es => do
    let v ← e.eval scope line
    let vs ← Expr.evalAll scope (e.lastLine line) es
    located (Expr.lastLineOf (e.lastLine line) es) (applyFilter f (v :: vs))
  | .call f es => do
    let vs ← Expr.evalAll scope line es
    located (Expr.lastLineOf line es) (callNamed scope f vs)

/-- The values of several expressions. -/
def Expr.evalAll (scope : Scope) (line : Nat) : List Expr → Except Stop (List Value)
  | [] => .ok []
  | e :: rest => do
    let v ← e.eval scope line
    return v :: (← Expr.evalAll scope (e.lastLine line) rest)

end

/-! ### Statements -/

/-- What an output tag prints. -/
def printed (v : Value) : Except Failure String := do
  defined v
  return v.shown

/-- What `loop` stands for at an item. -/
def loopObject (index total : Nat) : Value :=
  .object
    [("index0", .number index), ("index", .number (index + 1)), ("length", .number total),
      ("first", .boolean (index = 0)), ("last", .boolean (index + 1 = total))]

/-- The items that a loop keeps. -/
def keptItems (scope : Scope) (line : Nat) (target : String) (condition : Expr) :
    List Value → Except Stop (List Value)
  | [] => .ok []
  | v :: rest => do
    let c ← condition.eval ((scope.enter).bind target v) line
    let keep ← located (condition.lastLine line) (truth c)
    let rest ← keptItems scope line target condition rest
    return if keep then v :: rest else rest

/-- The body of a loop for each item; the level of the loop lasts from item to item. -/
def iterate (body : Scope → Except Stop (Scope × String)) (target : String) (total : Nat) :
    Nat → Scope → List Value → Except Stop String
  | _, _, [] => .ok ""
  | index, scope, v :: rest => do
    let (scope, out) ← body (scope.advance target v (loopObject index total))
    return out ++ (← iterate body target total (index + 1) scope rest)

mutual

/-- What a statement prints, and the scope after it. -/
def Statement.run (scope : Scope) : Statement → Except Stop (Scope × String)
  | .text s => .ok (scope, s)
  | .output line e => do
    let v ← e.eval scope line
    return (scope, ← located (e.lastLine line) (printed v))
  | .assign line name e => do
    return (scope.bind name (← e.eval scope line), "")
  | .branch line condition yes no => do
    let c ← condition.eval scope line
    if ← located (condition.lastLine line) (truth c) then Statement.runAll scope yes
    else Statement.runAll scope no
  | .loop line target source keep body otherwise => do
    let v ← source.eval scope line
    let items ← located (source.lastLine line) (elements v)
    let items ← match keep with
      | none => pure items
      | some condition => keptItems scope line target condition items
    if items.isEmpty then Statement.runAll scope otherwise
    else do
      let out ← iterate (fun s => Statement.runAll s body) target items.length 0 scope.enter items
      return (scope, out)

/-- What statements print one after the other, and the scope after them. -/
def Statement.runAll (scope : Scope) : List Statement → Except Stop (Scope × String)
  | [] => .ok (scope, "")
  | s :: rest => do
    let (scope, out) ← s.run scope
    let (scope, more) ← Statement.runAll scope rest
    return (scope, out ++ more)

end

/-- The text of a template, given what its global names stand for. -/
def render (statements : List Statement) (globals : List (String × Value)) : Except Stop String :=
  (Statement.runAll (Scope.ofGlobals globals) statements).map (·.2)

end ReleaseArtifacts.Template
