/-
Caller text shown inside a message.

A text is shown between double quotes with everything spelled out that a reader
could mistake: the quote and the backslash, the controls that have a letter of
their own, and by code point every other character without a glyph. A single
quote stays as it is, since it cannot be taken for the end.
-/
import SchemaSql.Text.Unseen

set_option autoImplicit false

namespace SchemaSql.Text

/-- A code point in lower-case hexadecimal between braces. -/
def spelledCodePoint (c : Char) : List Char :=
  ['\\', 'u', '\x7b'] ++ Nat.toDigits 16 c.toNat ++ ['\x7d']

/-- How one character is shown between the quotes. -/
def shownChar (c : Char) : List Char :=
  if c = '"' then ['\\', '"']
  else if c = '\\' then ['\\', '\\']
  else if c = '\n' then ['\\', 'n']
  else if c = '\r' then ['\\', 'r']
  else if c = '\t' then ['\\', 't']
  else if c.toNat = 0 then ['\\', '0']
  else if isUnseen c then spelledCodePoint c
  else [c]

/-- **The quoted form.** A text between double quotes, with nothing in it left to guess. -/
def quoted (s : String) : String :=
  String.ofList ('"' :: s.toList.flatMap shownChar ++ ['"'])

end SchemaSql.Text
