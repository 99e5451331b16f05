import ReleaseArtifacts.Toml.Document
import Mathlib

namespace ReleaseArtifacts.Toml

/-!
# Writing documents

Texts that write a document, said without the reader.

* `Spells c part` — a way to write one character between double quotes; `Quotes s text` — a string.
* `Writes v text` — a string, a truth value, or an array of strings on one line.
* `Layout` — the entries of a document in the order in which they are written: those of the root
  table first, and then sections.  `Layout.Writes` is a text with one entry a line.
* `Layout.exists_writes` — every layout of such values can be written.
-/

/-! ### Strings -/

/-- A hexadecimal digit, in either case. -/
def IsDigit (n : Nat) (x : Char) : Prop := x = Nat.digitChar n ∨ x = (Nat.digitChar n).toUpper

/-- The ways to write a character between double quotes: as it is, unless it is a quote, a backslash
    or a control; after a backslash; or by the four digits of its code point. -/
inductive Spells (c : Char) : List Char → Prop
  | plain (hquote : c ≠ '"') (hmark : c ≠ '\\') (htext : 0x20 ≤ c.toNat ∧ c.toNat ≠ 0x7f) :
    Spells c [c]
  | marked (h : c = '"' ∨ c = '\\') : Spells c ['\\', c]
  | code {x₃ x₂ x₁ x₀ : Char} (h : c.toNat < 0x10000) (h₃ : IsDigit (c.toNat / 0x1000) x₃)
    (h₂ : IsDigit (c.toNat / 0x100 % 0x10) x₂) (h₁ : IsDigit (c.toNat / 0x10 % 0x10) x₁)
    (h₀ : IsDigit (c.toNat % 0x10) x₀) : Spells c ['\\', 'u', x₃, x₂, x₁, x₀]

/-- The characters of a string, one after the other. -/
inductive SpellsAll : List Char → List Char → Prop
  | nil : SpellsAll [] []
  | cons {c : Char} {s part body : List Char} (first : Spells c part) (rest : SpellsAll s body) :
    SpellsAll (c :: s) (part ++ body)

/-- A string between double quotes. -/
inductive Quotes (s : String) : List Char → Prop
  | intro {body : List Char} (h : SpellsAll s.toList body) : Quotes s ('"' :: (body ++ ['"']))

/-! ### Values -/

/-- A truth value as a word. -/
def flagWord (b : Bool) : List Char := if b then ['t', 'r', 'u', 'e'] else ['f', 'a', 'l', 's', 'e']

/-- A string, a truth value, or an array of strings on one line. -/
inductive Writes : Value → List Char → Prop
  | string {s : String} {text : List Char} (h : Quotes s text) : Writes (.string s) text
  | flag (b : Bool) : Writes (.boolean b) (flagWord b)
  | strings {ss : List String} {texts : List (List Char)} (h : List.Forall₂ Quotes ss texts) :
    Writes (.array (ss.map .string)) ('[' :: ([',', ' '].intercalate texts ++ [']']))

/-! ### Documents -/

/-- Entries of a table, one a line. -/
inductive WritesEntries : Table → List Char → Prop
  | nil : WritesEntries [] []
  | cons {key : String} {v : Value} {entries : Table} {text more : List Char}
    (first : Writes v text) (rest : WritesEntries entries more) :
    WritesEntries ((key, v) :: entries) (key.toList ++ ' ' :: '=' :: ' ' :: (text ++ '\n' :: more))

/-- A section with the entries in it: a table of its own, or a further element of a list of
    tables. -/
structure Section where
  name : String
  repeated : Bool
  entries : Table

/-- The line that opens a section. -/
def Section.heading (s : Section) : List Char :=
  if s.repeated then '[' :: '[' :: (s.name.toList ++ [']', ']', '\n'])
  else '[' :: (s.name.toList ++ [']', '\n'])

/-- Sections one after the other. -/
inductive WritesSections : List Section → List Char → Prop
  | nil : WritesSections [] []
  | cons {s : Section} {sections : List Section} {text more : List Char}
    (first : WritesEntries s.entries text) (rest : WritesSections sections more) :
    WritesSections (s :: sections) (s.heading ++ (text ++ more))

/-- The entries of a document in the order in which they are written. -/
structure Layout where
  root : Table
  sections : List Section

/-- A text that writes a layout. -/
inductive Layout.Writes (layout : Layout) : String → Prop
  | intro {text : String} {root sections : List Char} (hroot : WritesEntries layout.root root)
    (hsections : WritesSections layout.sections sections) (h : text.toList = root ++ sections) :
    Layout.Writes layout text

/-! ### Everything can be written -/

/-- A string without quotes, backslashes and controls is written as it is. -/
theorem Quotes.plain {s : String} (h : ∀ c ∈ s.toList, c ≠ '"' ∧ c ≠ '\\' ∧ 0x20 ≤ c.toNat ∧
    c.toNat ≠ 0x7f) : Quotes s ('"' :: (s.toList ++ ['"'])) := by
  have hall : ∀ cs : List Char, (∀ c ∈ cs, c ≠ '"' ∧ c ≠ '\\' ∧ 0x20 ≤ c.toNat ∧ c.toNat ≠ 0x7f) →
      SpellsAll cs cs := by
    intro cs hcs
    induction cs with
    | nil => exact .nil
    | cons c cs ih =>
      obtain ⟨⟨hquote, hmark, htext⟩, hcs⟩ := List.forall_mem_cons.mp hcs
      exact .cons (.plain hquote hmark htext) (ih hcs)
  exact .intro (hall _ h)

theorem exists_spells (c : Char) : ∃ part, Spells c part := by
  by_cases hmark : c = '"' ∨ c = '\\'
  · exact ⟨_, .marked hmark⟩
  · obtain ⟨hquote, hback⟩ := not_or.mp hmark
    by_cases htext : 0x20 ≤ c.toNat ∧ c.toNat ≠ 0x7f
    · exact ⟨_, .plain hquote hback htext⟩
    · exact ⟨_, .code (by omega) (.inl rfl) (.inl rfl) (.inl rfl) (.inl rfl)⟩

theorem exists_quotes (s : String) : ∃ text, Quotes s text := by
  have hbody : ∀ cs : List Char, ∃ body, SpellsAll cs body := by
    intro cs
    induction cs with
    | nil => exact ⟨[], .nil⟩
    | cons c cs ih =>
      obtain ⟨part, hpart⟩ := exists_spells c
      obtain ⟨body, hbody⟩ := ih
      exact ⟨part ++ body, .cons hpart hbody⟩
  obtain ⟨body, h⟩ := hbody s.toList
  exact ⟨_, .intro h⟩

theorem exists_writes_strings (ss : List String) :
    ∃ text, Writes (.array (ss.map .string)) text := by
  have htexts : ∃ texts, List.Forall₂ Quotes ss texts := by
    induction ss with
    | nil => exact ⟨[], .nil⟩
    | cons s ss ih =>
      obtain ⟨text, htext⟩ := exists_quotes s
      obtain ⟨texts, htexts⟩ := ih
      exact ⟨text :: texts, .cons htext htexts⟩
  obtain ⟨texts, h⟩ := htexts
  exact ⟨_, .strings h⟩

theorem exists_writesEntries {entries : Table} (h : ∀ e ∈ entries, ∃ text, Writes e.2 text) :
    ∃ text, WritesEntries entries text := by
  induction entries with
  | nil => exact ⟨[], .nil⟩
  | cons e entries ih =>
    obtain ⟨⟨text, htext⟩, h⟩ := List.forall_mem_cons.mp h
    obtain ⟨more, hmore⟩ := ih h
    exact ⟨_, .cons htext hmore⟩

theorem exists_writesSections {sections : List Section}
    (h : ∀ s ∈ sections, ∀ e ∈ s.entries, ∃ text, Writes e.2 text) :
    ∃ text, WritesSections sections text := by
  induction sections with
  | nil => exact ⟨[], .nil⟩
  | cons s sections ih =>
    obtain ⟨hs, h⟩ := List.forall_mem_cons.mp h
    obtain ⟨text, htext⟩ := exists_writesEntries hs
    obtain ⟨more, hmore⟩ := ih h
    exact ⟨_, .cons htext hmore⟩

/-- **Every layout of values that can be written is written by a text.** -/
theorem Layout.exists_writes {layout : Layout}
    (hroot : ∀ e ∈ layout.root, ∃ text, Toml.Writes e.2 text)
    (hsections : ∀ s ∈ layout.sections, ∀ e ∈ s.entries, ∃ text, Toml.Writes e.2 text) :
    ∃ text, layout.Writes text := by
  obtain ⟨root, hroot⟩ := exists_writesEntries hroot
  obtain ⟨sections, hsections⟩ := exists_writesSections hsections
  exact ⟨String.ofList (root ++ sections), .intro hroot hsections String.toList_ofList⟩

end ReleaseArtifacts.Toml
