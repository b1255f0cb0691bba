/-
Tables to be created.

A table is its columns, its constraints and its indexes, each in the order of their
declaration. What columns say about themselves and what the table says about columns
overlap on purpose: a key, a reference or an index on one column can be declared
either way. Both declarations are kept as they were made; where a statement is
written they come together (`Table.allIndexes` here, `Table.elements` in
`SchemaSql.Table.Statement`).

No dialect is part of a table. It is chosen when the table is checked and written.
-/
import SchemaSql.Constraint

set_option autoImplicit false

namespace SchemaSql

/-- A table to be created. -/
structure Table where
  name : String
  columns : List Column := []
  constraints : List Constraint := []
  /-- The indexes declared by the table, without those that columns ask for. -/
  indexes : List Index := []
  /-- Whether the table may exist already. -/
  ifNotExists : Bool := false
  deriving DecidableEq, Repr

namespace Table

/-- A table of which only the name is known. -/
def empty (name : String) : Table := { name }

/-- The names of the columns, in order. -/
def columnNames (t : Table) : List String := t.columns.map (·.name)

/-- The columns flagged as primary key. -/
def keyColumns (t : Table) : List Column := t.columns.filter (·.primaryKey)

/-- The names of the columns flagged as primary key. -/
def keyColumnNames (t : Table) : List String := t.keyColumns.map (·.name)

/-- The primary keys that the table declares. -/
def tableKeys (t : Table) : List Constraint := t.constraints.filter (·.rule.isPrimaryKey)

/-- The columns whose values the database generates. -/
def autoincrementColumns (t : Table) : List Column := t.columns.filter (·.autoincrement)

/-- **All indexes of a table**: first those that columns ask for, then the declared ones. -/
def allIndexes (t : Table) : List Index :=
  (t.columns.filter (·.index)).map (fun c => Index.forTable t.name [c.name] false) ++ t.indexes

end Table

end SchemaSql
