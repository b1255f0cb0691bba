/-
Constraints and indexes: what a table says about several columns at once.

A constraint is a rule with an optional name. Three of the four rules list columns
of the table; a check has only an expression of the caller. An index lists columns
too but is no part of the table: it is created by a statement of its own, under a
name made of the table, the columns and the kind of index.
-/
import SchemaSql.Column

set_option autoImplicit false

namespace SchemaSql

/-! ## Constraints -/

/-- Columns that refer to columns of another table. -/
structure ForeignKey where
  columns : List String
  /-- The table referred to. -/
  table : String
  /-- The columns referred to. -/
  references : List String
  onDelete : Option ReferentialAction := none
  onUpdate : Option ReferentialAction := none
  deriving DecidableEq, Repr

/-- What a constraint demands. -/
inductive Rule where
  | primaryKey (columns : List String)
  | unique (columns : List String)
  | foreignKey (key : ForeignKey)
  | check (expression : String)
  deriving DecidableEq, Repr

/-- A rule that a table imposes on its rows, with or without a name. -/
structure Constraint where
  name : Option String := none
  rule : Rule
  deriving DecidableEq, Repr

/-- The columns of the table that a rule lists, none for a check. -/
def Rule.columns : Rule → List String
  | .primaryKey columns => columns
  | .unique columns => columns
  | .foreignKey key => key.columns
  | .check _ => []

/-- Whether a rule declares the primary key. -/
def Rule.isPrimaryKey : Rule → Bool
  | .primaryKey _ => true
  | _ => false

/-- One change to a foreign key constraint. -/
inductive ForeignKey.Modifier where
  | name (name : String)
  | onDelete (action : ReferentialAction)
  | onUpdate (action : ReferentialAction)
  deriving DecidableEq, Repr

namespace Constraint

/-- The columns of the table that a constraint lists. -/
def columns (c : Constraint) : List String := c.rule.columns

/-- The constraint of a foreign key, changed by one modifier. -/
def amend (c : Constraint) : ForeignKey.Modifier → Constraint
  | .name name => { c with name := some name }
  | .onDelete action =>
    match c.rule with
    | .foreignKey key => { c with rule := .foreignKey { key with onDelete := some action } }
    | _ => c
  | .onUpdate action =>
    match c.rule with
    | .foreignKey key => { c with rule := .foreignKey { key with onUpdate := some action } }
    | _ => c

/-- **A foreign key constraint** with its modifiers, applied in order. -/
def foreign (columns : List String) (table : String) (references : List String)
    (modifiers : List ForeignKey.Modifier) : Constraint :=
  modifiers.foldl amend { rule := .foreignKey { columns, table, references } }

/-- The constraint that a column's own reference amounts to. -/
def ofReference (column : String) (r : Reference) : Constraint :=
  { rule := .foreignKey
      { columns := [column], table := r.table, references := [r.column]
        onDelete := r.onDelete, onUpdate := r.onUpdate } }

end Constraint

/-! ## Indexes -/

/-- An index of a table. -/
structure Index where
  name : String
  columns : List String
  unique : Bool
  deriving DecidableEq, Repr

/-- **The index of a table on some columns.** Its name consists of the table, the columns and the
kind, joined by underscores. -/
def Index.forTable (table : String) (columns : List String) (unique : Bool) : Index where
  name := table ++ "_" ++ "_".intercalate columns ++ "_" ++ (if unique then "unique" else "index")
  columns := columns
  unique := unique

end SchemaSql
