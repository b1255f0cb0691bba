/-
What the command line asks for.

The program does one thing per call: it prints the statements of one operation, or the
statements that a script holds. The options before the command say for which dialect,
and how much is told on the side.
-/
import SchemaSql.Dialect

set_option autoImplicit false

namespace SchemaSql.CommandLine

/-- What to do. -/
inductive Command where
  /-- Print the statements of a script: a file, or the standard input. -/
  | split (file : Option String)
  /-- Print the query for a table. -/
  | hasTable (name : String)
  | drop (names : List String) (ifExists cascade : Bool)
  | renameTable (old new : String)
  | renameColumn (table old new : String)
  | dropColumn (table column : String)
  /-- Print caller-written SQL, terminated. -/
  | raw (sql : String)
  deriving DecidableEq, Repr

/-- The options before the command. -/
structure Options where
  dialect : Option Dialect := none
  /-- The file with the settings. -/
  config : Option String := none
  /-- Whether the log tells the details. -/
  verbose : Bool := false
  /-- Whether the database is known to be able to drop columns. -/
  sqliteDropColumn : Bool := false
  deriving DecidableEq, Repr

/-- A call of the program. -/
structure Invocation where
  options : Options
  command : Command
  deriving DecidableEq, Repr

end SchemaSql.CommandLine
