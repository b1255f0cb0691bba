/-
The log of a call.

An entry says one thing that happened. One kind is for everybody; the others are details
and are told only on request. Entries are written with a level in front, aligned to the
right, and with their values behind names. Values that a caller wrote into a name are
quoted where nothing else would show their ends.
-/
import SchemaSql.Dialect
import SchemaSql.Text.Quoted

set_option autoImplicit false

namespace SchemaSql.CommandLine

open SchemaSql.Text

/-- One thing that happened. -/
inductive LogEntry where
  /-- The settings are known. -/
  | settled (dialect : Dialect)
  /-- A statement was added to the changeset. -/
  | appended (dialect : Dialect) (statement : String)
  /-- A column was not dropped. -/
  | skipped (dialect : Dialect) (table column : String)
  /-- There is nothing to print for that reason. -/
  | nothingToDo (dialect : Dialect)
  deriving DecidableEq, Repr

namespace LogEntry

/-- Whether the entry is told on request only. -/
def isDetail : LogEntry → Bool
  | .nothingToDo _ => false
  | _ => true

/-- The level in front of an entry. -/
def level (e : LogEntry) : String := if e.isDetail then "DEBUG" else " INFO"

/-- What an entry says. -/
def message : LogEntry → String
  | .settled dialect => "Using configuration dialect=" ++ dialect.name
  | .appended dialect statement =>
    "Appending statement dialect=" ++ dialect.name ++ " sql=" ++ statement
  | .skipped dialect table column =>
    "DROP COLUMN disabled, skipping dialect=" ++ quoted dialect.name ++ " table=" ++ quoted table
      ++ " column=" ++ quoted column
  | .nothingToDo dialect => "DROP COLUMN is disabled for " ++ dialect.name ++ "; nothing to do."

/-- **The line of an entry.** -/
def line (e : LogEntry) : String := e.level ++ " " ++ e.message

end LogEntry

/-- **The log as text**: one line per entry, the details left out unless they are asked for. -/
def logText (verbose : Bool) (entries : List LogEntry) : String :=
  String.join ((entries.filter fun e => verbose || !e.isDetail).map fun e => e.line ++ "\n")

end SchemaSql.CommandLine
