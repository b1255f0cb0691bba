/-
Scripts: several SQL statements in one text.

A statement is a body followed by its terminator, the semicolon. In a script a
semicolon ends a statement, so one that belongs to a body (in a string, in an
expression) is written `\;`. This file reads scripts and writes them.

**Reading** (`Script.statements`) is two steps. `pieces` cuts the text at the
semicolons that no backslash precedes and resolves the escapes on the way; every
other character, a lone backslash included, stays where it is. `statement?` then
gives each piece its normal form: blanks at the ends are cut, an empty piece is no
statement, and the terminator is put back. Reading cannot fail.

**Writing** (`Script.ofStatements`) encodes each statement on its own and puts a
line break between two of them. `encode` takes one final semicolon for the
terminator and escapes all others. A body that ends in a backslash would turn the
terminator after it into an escape, so a space goes between them; reading trims it
off again.

`pieces` is one recursion on the text and has an equation per case
(`pieces_escape`, `pieces_terminator`, `pieces_char`), which is how it is meant to
be used.
-/
import SchemaSql.Text.Blank

set_option autoImplicit false

namespace SchemaSql.Script

open SchemaSql.Text

/-! ## Reading -/

/-- Puts a character in front of the first piece. -/
def consFirst (c : Char) : List (List Char) → List (List Char)
  | [] => [[c]]
  | piece :: rest => (c :: piece) :: rest

/-- **The cut.** The text between unescaped semicolons, with `\;` read as a semicolon. There is
always a last piece, possibly empty. -/
def pieces : List Char → List (List Char)
  | [] => [[]]
  | '\\' :: ';' :: rest => consFirst ';' (pieces rest)
  | ';' :: rest => [] :: pieces rest
  | c :: rest => consFirst c (pieces rest)

@[simp] theorem pieces_nil : pieces [] = [[]] := rfl

/-- An escaped semicolon belongs to the piece it stands in. -/
theorem pieces_escape (rest : List Char) :
    pieces ('\\' :: ';' :: rest) = consFirst ';' (pieces rest) := by
  rw [pieces]

/-- A bare semicolon ends the piece before it. -/
theorem pieces_terminator (rest : List Char) : pieces (';' :: rest) = [] :: pieces rest := by
  rw [pieces]

/-- Any other character belongs to the piece it stands in, and so does a backslash that no
semicolon follows. -/
theorem pieces_char {c : Char} {rest : List Char} (hc : c ≠ ';')
    (hrest : c = '\\' → rest.head? ≠ some ';') :
    pieces (c :: rest) = consFirst c (pieces rest) := by
  rw [pieces]
  · intro tail hcons hrest'
    subst hcons hrest'
    exact hrest rfl rfl
  · exact hc

/-- A piece as a statement: trimmed and terminated, or nothing if it is blank. -/
def statement? (piece : List Char) : Option String :=
  match trim piece with
  | [] => none
  | body => some (String.ofList (body ++ [';']))

/-- A piece is a statement exactly where something is left of it, and then the statement is what is
left and the terminator. -/
theorem statement?_eq_some_iff {piece : List Char} {s : String} :
    statement? piece = some s ↔ trim piece ≠ [] ∧ String.ofList (trim piece ++ [';']) = s := by
  rw [statement?]
  rcases trim piece with _ | ⟨c, rest⟩
  · simp
  · simp

/-- **Reading a script.** Its statements in the order in which they stand, each terminated. -/
def statements (script : String) : List String :=
  (pieces script.toList).filterMap statement?

/-! ## Writing -/

/-- Writes every semicolon as `\;`. -/
def escapeChars (s : List Char) : List Char :=
  s.flatMap fun c => if c = ';' then ['\\', ';'] else [c]

/-- **Escaping.** The text with every semicolon written as `\;`. -/
def escape (text : String) : String := String.ofList (escapeChars text.toList)

/-- A statement without its terminator: at most one semicolon is cut off the end. -/
def body (statement : List Char) : List Char :=
  if statement.getLast? = some ';' then statement.dropLast else statement

/-- What ends an encoded body: the terminator, kept clear of a final backslash. -/
def ending (encodedBody : List Char) : List Char :=
  if encodedBody.getLast? = some '\\' then [' ', ';'] else [';']

/-- The written form of one statement, on characters. -/
def encodeChars (statement : List Char) : List Char :=
  let encodedBody := escapeChars (body statement)
  encodedBody ++ ending encodedBody

/-- **Writing one statement** so that it can stand in a script without being cut. -/
def encode (statement : String) : String := String.ofList (encodeChars statement.toList)

/-- **Writing a script.** Each statement encoded, a line break between two of them. -/
def ofStatements (statements : List String) : String :=
  "\n".intercalate (statements.map encode)

@[simp] theorem escapeChars_nil : escapeChars [] = [] := rfl

theorem escapeChars_semicolon (s : List Char) :
    escapeChars (';' :: s) = '\\' :: ';' :: escapeChars s := rfl

theorem escapeChars_cons {c : Char} (s : List Char) (hc : c ≠ ';') :
    escapeChars (c :: s) = c :: escapeChars s := by
  simp [escapeChars, hc]

/-- A terminated statement loses its terminator. -/
theorem body_concat_semicolon (s : List Char) : body (s ++ [';']) = s := by
  simp [body]

/-- A text that does not end in a semicolon is a body as it stands. -/
theorem body_eq_self {s : List Char} (h : s.getLast? ≠ some ';') : body s = s := by
  simp [body, h]

end SchemaSql.Script
