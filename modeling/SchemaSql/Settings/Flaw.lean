/-
What can be wrong with a settings document, and how it is told.

A document is read from left to right and the first flaw ends the reading, so one
flaw is all there is to tell. A message about a document would go on to say where the
flaw lies. That position is not part of the text here, and an unknown dialect whose
name itself ends in the words of a position is told without them
(`withoutPosition`): they are taken for the position of the flaw.
-/
import SchemaSql.Json.Found

set_option autoImplicit false

namespace SchemaSql.Settings

open SchemaSql.Json

/-- The fields of a settings document. -/
inductive Field where
  | dialect
  | nativeDropColumn
  deriving DecidableEq, Repr

namespace Field

/-- The key of a field. -/
def key : Field → String
  | .dialect => "dialect"
  | .nativeDropColumn => "native_drop_column"

/-- The fields, in the order of the array form. -/
def all : List Field := [.dialect, .nativeDropColumn]

/-- The field of a key. -/
def ofKey? (key : String) : Option Field := all.find? fun f => f.key == key

end Field

/-- What a place of the document can hold. -/
inductive Expectation where
  | document
  | string
  | boolean
  deriving DecidableEq, Repr

/-- An expectation in the words of a message. -/
def Expectation.description : Expectation → String
  | .document => "struct SchemaConfig"
  | .string => "a string"
  | .boolean => "a boolean"

/-- What is wrong with a document. -/
inductive Flaw where
  /-- The text is not JSON, or it goes on after the document. -/
  | malformed
  | wrongType (found : Found) (expected : Expectation)
  | unknownField (key : String)
  | duplicateField (field : Field)
  | unknownDialect (name : String)
  deriving DecidableEq, Repr

/-! ## Positions at the end of a text -/

/-- Cuts a number of at most 64 bits off the end of a text, given in reverse. -/
def cutNumber? (reversed : List Char) : Option (List Char) :=
  match (reversed.takeWhile Char.isDigit).reverse with
  | [] => none
  | digits =>
    if Numeral.natValue digits < Nat.pow 2 64 then some (reversed.dropWhile Char.isDigit) else none

/-- Cuts a word off the end of a text, given in reverse. -/
def cutWord? (word : String) (reversed : List Char) : Option (List Char) :=
  word.toList.reverse.isPrefixOf? reversed

/-- Cuts ` at line L column C` off the end of a text, given in reverse. -/
def cutPosition? (reversed : List Char) : Option (List Char) :=
  cutNumber? reversed >>= cutWord? " column " >>= cutNumber? >>= cutWord? " at line "

/-- A text without the position that it ends in, if it ends in one. -/
def withoutPosition (text : String) : String :=
  match cutPosition? text.toList.reverse with
  | some reversed => String.ofList reversed.reverse
  | none => text

/-! ## Messages -/

/-- **The flaw in words**, its position left out. -/
def Flaw.detail : Flaw → String
  | .malformed => "malformed document"
  | .wrongType found expected =>
    "invalid type: " ++ found.description ++ ", expected " ++ expected.description
  | .unknownField key =>
    "unknown field `" ++ key ++ "`, expected `" ++ Field.dialect.key ++ "` or `"
      ++ Field.nativeDropColumn.key ++ "`"
  | .duplicateField field => "duplicate field `" ++ field.key ++ "`"
  | .unknownDialect name => withoutPosition ("Unknown dialect: " ++ name)

end SchemaSql.Settings
