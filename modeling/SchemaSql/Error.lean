/-
What can go wrong, and how it is told.

An error is a cause with the names that belong to it. Its wording is in one place,
`DefinitionError.message` and `Error.message`, and nothing in the library looks at
the wording.
-/
import SchemaSql.Settings.Flaw
import SchemaSql.Dialect
import SchemaSql.DataType

set_option autoImplicit false

namespace SchemaSql

/-- The parts of a table that list columns. -/
inductive ColumnList where
  | primaryKey
  | unique
  | foreignKey
  | index
  deriving DecidableEq, Repr

/-- A column list in the words of a message. -/
def ColumnList.description : ColumnList → String
  | .primaryKey => "primary key"
  | .unique => "unique constraint"
  | .foreignKey => "foreign key"
  | .index => "index"

/-- Why a definition is refused before any SQL is written for it. -/
inductive DefinitionError where
  | noColumns (table : String)
  | duplicateColumn (table column : String)
  | severalPrimaryKeys (table : String)
  | severalAutoincrement (table : String)
  | autoincrementType (table column : String) (type : DataType)
  | autoincrementDefault (table column : String)
  | autoincrementNoKey (table column : String) (dialect : Dialect)
  | autoincrementNotSoleKey (table column : String) (dialect : Dialect)
  | unknownColumn (table column : String)
  | emptyColumnList (table : String) (list : ColumnList)
  /-- No table was named where at least one is needed. -/
  | noTables
  deriving DecidableEq, Repr

/-- A column in the words of a message. -/
def quotedColumn (table column : String) : String := "Column '" ++ table ++ "." ++ column ++ "'"

/-- **A definition error in words.** -/
def DefinitionError.message : DefinitionError → String
  | .noColumns table => "Table '" ++ table ++ "' has no columns"
  | .duplicateColumn table column =>
    "Duplicate column '" ++ column ++ "' in table '" ++ table ++ "'"
  | .severalPrimaryKeys table => "Table '" ++ table ++ "' declares more than one primary key"
  | .severalAutoincrement table =>
    "Table '" ++ table ++ "' declares more than one auto-increment column"
  | .autoincrementType table column type =>
    quotedColumn table column ++ " is " ++ type.description
      ++ "; auto-increment requires an integer type"
  | .autoincrementDefault table column =>
    quotedColumn table column ++ " is auto-increment and cannot have a default"
  | .autoincrementNoKey table column dialect =>
    quotedColumn table column ++ " is auto-increment but not a primary key (" ++ dialect.name ++ ")"
  | .autoincrementNotSoleKey table column dialect =>
    quotedColumn table column
      ++ " is auto-increment and must be the sole, column-level primary key ("
      ++ dialect.name ++ ")"
  | .unknownColumn table column => "Table '" ++ table ++ "' has no column '" ++ column ++ "'"
  | .emptyColumnList table list =>
    "Table '" ++ table ++ "' has a " ++ list.description ++ " without columns"
  | .noTables => "No table names given to drop"

/-- Why an operation failed. -/
inductive Error where
  /-- What was to be written is not well defined. -/
  | definition (cause : DefinitionError)
  /-- The dialect has no way to say it. -/
  | unsupported (operation : String) (dialect : Dialect)
  /-- No dialect has this name. -/
  | unknownDialect (name : String)
  /-- The settings document cannot be read. -/
  | settings (flaw : Settings.Flaw)
  deriving DecidableEq, Repr

/-- **An error in words.** -/
def Error.message : Error → String
  | .definition cause => "Configuration error: " ++ cause.message
  | .unsupported operation dialect => operation ++ " is not supported by " ++ dialect.name
  | .unknownDialect name => "Unknown dialect: " ++ name
  | .settings flaw => "Invalid configuration: " ++ flaw.detail

/-- **The dialect of a name**, or the error that there is none. -/
def Dialect.ofName (name : String) : Except Error Dialect :=
  match Dialect.ofName? name with
  | some dialect => .ok dialect
  | none => .error (.unknownDialect name)

end SchemaSql
