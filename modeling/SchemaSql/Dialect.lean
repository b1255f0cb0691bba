/-
The SQL dialects, and how a caller names one.

There are three of them. Which one a schema change is written for is chosen once,
by name, and everything that differs between them is a function on `Dialect`. Where
those functions concern a part of a table they stand in the `Rendering` modules;
here are only the facts about a dialect itself.

A dialect can be spelled in several ways (`Dialect.spellings`). Capital letters and
blanks around the spelling do not matter, but only ASCII letters have a small form
here: no other letter can become part of a spelling.

Some features depend on the version of the database and not on the dialect alone.
They are `Capabilities`, with the assumption that each dialect makes when nothing
else is known.
-/
import SchemaSql.Text.Blank

set_option autoImplicit false

namespace SchemaSql

/-- A SQL dialect. -/
inductive Dialect where
  | postgres
  | mysql
  | sqlite
  deriving DecidableEq, Repr

/-- The features of a database that depend on its version. -/
structure Capabilities where
  /-- Whether a column can be dropped from a table. -/
  nativeDropColumn : Bool
  deriving DecidableEq, Repr

namespace Dialect

/-- Postgres is meant where no dialect is named. -/
instance : Inhabited Dialect := ⟨.postgres⟩

/-- **The dialects**, in the order in which they are listed. -/
def all : List Dialect := [.postgres, .mysql, .sqlite]

/-! ## Names -/

/-- The name under which a dialect is shown. -/
def name : Dialect → String
  | .postgres => "postgres"
  | .mysql => "mysql"
  | .sqlite => "sqlite"

/-- The ways to spell a dialect, in small letters. -/
def spellings : Dialect → List String
  | .postgres => ["pg", "postgres", "postgresql"]
  | .mysql => ["mysql"]
  | .sqlite => ["sqlite", "sqlite3"]

/-- A caller's spelling without blanks around it and in small letters (ASCII only). -/
def spelling (text : String) : String :=
  String.ofList ((Text.trim text.toList).map Char.toLower)

/-- **The dialect of a name**, if it is the name of one. -/
def ofName? (text : String) : Option Dialect :=
  all.find? fun d => d.spellings.contains (spelling text)

/-! ## Assumptions about the database -/

/-- What is assumed of a database whose version is not known. Old versions of SQLite cannot drop a
column. -/
def defaultCapabilities : Dialect → Capabilities
  | .postgres | .mysql => ⟨true⟩
  | .sqlite => ⟨false⟩

/-! ## Columns whose values the database generates -/

/-- What follows the type of an auto-increment column. Postgres has types of their own for such
columns instead. -/
def autoincrementKeyword : Dialect → String
  | .postgres => ""
  | .mysql => " AUTO_INCREMENT"
  | .sqlite => " AUTOINCREMENT"

/-- Whether an auto-increment column has to be part of the primary key. -/
def requiresKeyedAutoincrement : Dialect → Bool
  | .postgres => false
  | .mysql | .sqlite => true

/-- Whether an auto-increment column has to be the whole primary key, declared on the column. -/
def requiresSoleKeyAutoincrement : Dialect → Bool
  | .postgres | .mysql => false
  | .sqlite => true

end Dialect

end SchemaSql
