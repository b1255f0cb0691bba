/-
Changesets: the statements of a schema change, collected one operation at a time.

A changeset is for one dialect and one set of capabilities, and it keeps the statements
in the order in which they have to run. Operations only ever add at the end. One that
fails adds nothing, and neither does dropping a column where the database cannot do it.

Caller-written SQL is kept as it is, a terminator being added if it has none. Whether
it has one is decided without the blanks at its end.
-/
import SchemaSql.Settings
import SchemaSql.Table.Statement
import SchemaSql.Table.Step

set_option autoImplicit false

namespace SchemaSql

/-- The statements of a schema change. -/
structure Changeset where
  dialect : Dialect
  capabilities : Capabilities
  /-- The statements so far, in the order in which they run. -/
  statements : List String := []
  deriving DecidableEq, Repr

/-- **A terminated text.** A semicolon is added unless the text ends in one, blanks at its end
aside. -/
def terminated (sql : String) : String :=
  if (Text.trimEnd sql.toList).getLast? = some ';' then sql else sql ++ ";"

namespace Changeset

/-! ## Starting -/

/-- An empty changeset with the assumptions of its dialect. -/
def new (dialect : Dialect) : Changeset := { dialect, capabilities := dialect.defaultCapabilities }

/-- An empty changeset for some settings. -/
def ofSettings (s : Settings) : Changeset where
  dialect := s.dialect
  capabilities := s.capabilities

theorem dialect_ofSettings (s : Settings) : (ofSettings s).dialect = s.dialect := rfl

/-! ## Operations -/

/-- Adds statements at the end. -/
def append (c : Changeset) (statements : List String) : Changeset :=
  { c with statements := c.statements ++ statements }

/-- Creates a table with its indexes. -/
def create (c : Changeset) (table : Table) : Except Error Changeset :=
  match table.script c.dialect with
  | .error cause => .error (.definition cause)
  | .ok script => .ok (c.append (Script.statements script))

/-- Adds caller-written SQL. -/
def raw (c : Changeset) (sql : String) : Changeset := c.append [terminated sql]

/-- Drops tables, all by one statement. There has to be one. -/
def drop (c : Changeset) (names : List String) (ifExists cascade : Bool) :
    Except Error Changeset :=
  if names.isEmpty then .error (.definition .noTables)
  else .ok (c.append [dropTablesStatement names ifExists cascade])

/-- The query for a table. It is not part of the change. -/
def tableQuery (c : Changeset) (name : String) : String := c.dialect.tableQuery name

/-- Renames a table. -/
def renameTable (c : Changeset) (old new : String) : Changeset :=
  c.append [c.dialect.renameTableStatement old new]

/-- Renames a column. -/
def renameColumn (c : Changeset) (table old new : String) : Changeset :=
  c.append [c.dialect.renameColumnStatement table old new]

/-- Drops a column, where the database can do it. -/
def dropColumn (c : Changeset) (table column : String) : Changeset :=
  c.append (c.dialect.dropColumn? table column c.capabilities).toList

@[simp] theorem statements_append (c : Changeset) (more : List String) :
    (c.append more).statements = c.statements ++ more := rfl

@[simp] theorem dialect_append (c : Changeset) (more : List String) :
    (c.append more).dialect = c.dialect := rfl

@[simp] theorem capabilities_append (c : Changeset) (more : List String) :
    (c.append more).capabilities = c.capabilities := rfl

end Changeset

end SchemaSql
