/-
Text as a SQL string literal.

A literal stands between single quotes, and a single quote inside it is written
twice. Nothing else is touched: a backslash, a line break or a semicolon is part
of the text as it stands.
-/

set_option autoImplicit false

namespace SchemaSql.Text

/-- Writes every single quote twice. -/
def doubleQuotes (s : List Char) : List Char :=
  s.flatMap fun c => if c = '\'' then ['\'', '\''] else [c]

@[simp] theorem doubleQuotes_nil : doubleQuotes [] = [] := rfl

theorem doubleQuotes_quote (s : List Char) :
    doubleQuotes ('\'' :: s) = '\'' :: '\'' :: doubleQuotes s := rfl

theorem doubleQuotes_cons {c : Char} (s : List Char) (h : c ≠ '\'') :
    doubleQuotes (c :: s) = c :: doubleQuotes s := by
  simp [doubleQuotes, h]

/-- **The literal.** The text between single quotes, with the quotes in it doubled. -/
def sqlLiteral (s : String) : String :=
  String.ofList ('\'' :: doubleQuotes s.toList ++ ['\''])

end SchemaSql.Text
