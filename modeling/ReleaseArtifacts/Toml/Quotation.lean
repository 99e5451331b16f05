import ReleaseArtifacts.Reader
import ReleaseArtifacts.Text.Hexadecimal

namespace ReleaseArtifacts.Toml

/-!
# Quotations

The four ways to write a string: between double or single quotes, on one line or on several.  Only
double quotes have escapes.

* `basicString`, `literalString` — on one line; `longBasicString`, `longLiteralString` — on several.
* `anyString` — any of them.
-/

/-- A reader of characters. -/
abbrev CharReader (α : Type) := Reader Char α

/-! ### Characters -/

/-- Blanks inside a line. -/
def isSpace (c : Char) : Bool := c = ' ' || c = '\t'

/-- Characters of comments and quotations: no control but the tab. -/
def isText (c : Char) : Bool := c = '\t' || (0x20 ≤ c.toNat && c.toNat ≠ 0x7f)

/-- Drops blanks and line ends. -/
def skipLines : List Char → List Char
  | [] => []
  | '\n' :: rest => skipLines rest
  | '\r' :: '\n' :: rest => skipLines rest
  | c :: rest => if isSpace c then skipLines rest else c :: rest

/-- A line end that stands at the front. -/
def startsLine : List Char → Bool
  | '\n' :: _ => true
  | '\r' :: '\n' :: _ => true
  | _ => false

theorem skipLines_length (s : List Char) : (skipLines s).length ≤ s.length := by
  fun_induction skipLines s with
  | case1 => simp
  | case2 rest ih => simp only [List.length_cons]; omega
  | case3 rest ih => simp only [List.length_cons]; omega
  | case4 c rest _ _ _ ih => simp only [List.length_cons]; omega
  | case5 => simp

/-! ### Escapes -/

/-- The character whose code point some hexadecimal digits write. -/
def codeChar? (digits : List Char) : Option Char :=
  (Text.hexNumber? digits).bind Text.charOf?

/-- The character of a letter after a backslash. -/
def letterChar? : Char → Option Char
  | 'b' => some '\x08'
  | 't' => some '\t'
  | 'n' => some '\n'
  | 'f' => some '\x0c'
  | 'r' => some '\r'
  | '"' => some '"'
  | '\\' => some '\\'
  | _ => none

/-- An escape: a backslash with a letter, or with the four or eight digits of a code point. -/
def escape : CharReader Char
  | '\\' :: 'u' :: a :: b :: c :: d :: rest =>
    (codeChar? [a, b, c, d]).map (⟨·, rest, by simp only [List.length_cons]; omega⟩)
  | '\\' :: 'U' :: a :: b :: c :: d :: e :: f :: g :: h :: rest =>
    (codeChar? [a, b, c, d, e, f, g, h]).map (⟨·, rest, by simp only [List.length_cons]; omega⟩)
  | '\\' :: c :: rest => (letterChar? c).map (⟨·, rest, by simp only [List.length_cons]; omega⟩)
  | _ => none

/-! ### Strings on one line -/

/-- The next character of a quotation on one line; `done` is in reverse. -/
def lineStep (escapes : Bool) (quote : Char) (done : List Char) :
    (input : List Char) → Continuation (List Char) input
  | [] => .refuse
  | c :: rest =>
    if c = quote then .stop
    else if c = '\\' ∧ escapes then
      match escape (c :: rest) with
      | some r => .next (r.map (· :: done))
      | none => .refuse
    else if isText c then .next (.first (c :: done) c rest)
    else .refuse

/-- A quotation on one line. -/
def lineString (escapes : Bool) (quote : Char) : CharReader String
  | [] => none
  | c :: rest =>
    if c = quote then do
      let body ← Reader.extend (lineStep escapes quote) [] rest
      match h : body.rest with
      | [] => none
      | _ :: after =>
        return ⟨String.ofList body.value.reverse, after, by
          have := body.shorter
          simp only [h, List.length_cons] at this ⊢
          omega⟩
    else none

/-- A string between double quotes. -/
def basicString : CharReader String := lineString true '"'

/-- A string between single quotes. -/
def literalString : CharReader String := lineString false '\''

/-! ### Strings on several lines -/

/-- The next character of a quotation on several lines; `done` is in reverse.  A backslash at the
    end of a line takes the line end and all blanks after it. -/
def longStep (escapes : Bool) (quote : Char) (done : List Char) :
    (input : List Char) → Continuation (List Char) input
  | [] => .refuse
  | '\n' :: rest => .next (.first ('\n' :: done) '\n' rest)
  | '\r' :: '\n' :: rest => .next ((Read.first ('\n' :: done) '\n' rest).tail '\r')
  | c :: rest =>
    if c = quote then
      if rest.take 2 = [quote, quote] then .stop else .next (.first (c :: done) c rest)
    else if c = '\\' ∧ escapes then
      if startsLine (rest.dropWhile isSpace) then
        .next ⟨done, skipLines rest, Nat.lt_succ_of_le (skipLines_length rest)⟩
      else match escape (c :: rest) with
        | some r => .next (r.map (· :: done))
        | none => .refuse
    else if isText c then .next (.first (c :: done) c rest)
    else .refuse

/-- How many times a character stands at the front. -/
def countFront (c : Char) (input : List Char) : Nat := (input.takeWhile (· = c)).length

theorem countFront_le (c : Char) (input : List Char) : countFront c input ≤ input.length :=
  (List.takeWhile_sublist _).length_le

/-- The end of a quotation on several lines: three quotes, and up to two more before them that
    belong to the string. -/
def closeLong (quote : Char) (done : List Char) (input : List Char) : Option (Read String input) :=
  if h : 3 ≤ countFront quote input ∧ countFront quote input ≤ 5 then
    let inner := List.replicate (countFront quote input - 3) quote
    some ⟨String.ofList (inner ++ done).reverse, input.drop (countFront quote input), by
      have := countFront_le quote input
      simp only [List.length_drop]
      omega⟩
  else none

/-- A text without the line end at its front. -/
def skipLineEnd : List Char → List Char
  | '\n' :: rest => rest
  | '\r' :: '\n' :: rest => rest
  | s => s

theorem skipLineEnd_length (s : List Char) : (skipLineEnd s).length ≤ s.length := by
  fun_cases skipLineEnd s <;> (simp; try omega)

/-- A quotation on several lines.  A line end right after the opening quotes is not part of it. -/
def longString (escapes : Bool) (quote : Char) : CharReader String
  | a :: b :: c :: rest =>
    if a = quote ∧ b = quote ∧ c = quote then do
      let body ← Reader.extend (longStep escapes quote) [] (skipLineEnd rest)
      let r ← closeLong quote body.value body.rest
      return ⟨r.value, r.rest, by
        have := r.shorter
        have := body.shorter
        have := skipLineEnd_length rest
        simp only [List.length_cons]
        omega⟩
    else none
  | _ => none

/-- Any quotation. -/
def anyString : CharReader String
  | '"' :: '"' :: '"' :: rest => longString true '"' ('"' :: '"' :: '"' :: rest)
  | '\'' :: '\'' :: '\'' :: rest => longString false '\'' ('\'' :: '\'' :: '\'' :: rest)
  | '"' :: rest => basicString ('"' :: rest)
  | '\'' :: rest => literalString ('\'' :: rest)
  | _ => none

end ReleaseArtifacts.Toml
