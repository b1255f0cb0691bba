/-
Describing a table step by step.

A step adds one thing at the end of what is there: a column with its modifiers, a
constraint, an index. No step looks at what earlier steps have added, and none can
fail; whether the whole makes sense is checked once, when it is complete
(`SchemaSql.Table.Validity`). So a table may mention a column before the column is
declared.

Steps are data, and `Table.buildAll` is a fold over them. The names at the end are
shorthands for common steps.
-/
import SchemaSql.Table

set_option autoImplicit false

namespace SchemaSql.Table

/-- One step in the description of a table. -/
inductive Step where
  /-- Adds a column. -/
  | column (name : String) (type : DataType) (modifiers : List Column.Modifier)
  /-- Adds the columns for the times of creation and of the last change. -/
  | timestamps
  /-- Adds a constraint. -/
  | constraint (constraint : Constraint)
  /-- Adds an index. -/
  | index (columns : List String) (unique : Bool)
  /-- Lets the table exist already. -/
  | ifNotExists
  deriving DecidableEq, Repr

/-- A column that holds the current time unless a row says otherwise. -/
def timeColumn (name : String) : Column :=
  (Column.bare name .timestamp).modifyAll [.notNull, .default (.expression "CURRENT_TIMESTAMP")]

/-- **One step.** -/
def build (t : Table) : Step → Table
  | .column name type modifiers =>
    { t with columns := t.columns ++ [(Column.bare name type).modifyAll modifiers] }
  | .timestamps =>
    { t with columns := t.columns ++ [timeColumn "created_at", timeColumn "updated_at"] }
  | .constraint c => { t with constraints := t.constraints ++ [c] }
  | .index columns unique =>
    { t with indexes := t.indexes ++ [Index.forTable t.name columns unique] }
  | .ifNotExists => { t with ifNotExists := true }

/-- **Steps in order**, the first one first. -/
def buildAll (t : Table) (steps : List Step) : Table := steps.foldl build t

/-- The table that some steps describe. -/
def ofSteps (name : String) (steps : List Step) : Table := (empty name).buildAll steps

@[simp] theorem buildAll_nil (t : Table) : t.buildAll [] = t := rfl

@[simp] theorem buildAll_cons (t : Table) (s : Step) (steps : List Step) :
    t.buildAll (s :: steps) = (t.build s).buildAll steps := rfl

theorem buildAll_append (t : Table) (steps more : List Step) :
    t.buildAll (steps ++ more) = (t.buildAll steps).buildAll more := by
  simp [buildAll]

namespace Step

/-! ## Shorthands -/

/-- An integer column that is the primary key and numbers its rows. -/
def increments (name : String) (modifiers : List Column.Modifier) : Step :=
  .column name .integer (.primaryKey :: .autoincrement :: modifiers)

/-- The same with a big integer. -/
def bigIncrements (name : String) (modifiers : List Column.Modifier) : Step :=
  .column name .bigInteger (.primaryKey :: .autoincrement :: modifiers)

/-- A primary key of several columns. -/
def primaryKey (columns : List String) : Step := .constraint { rule := .primaryKey columns }

/-- Columns that are unique together. -/
def unique (columns : List String) : Step := .constraint { rule := .unique columns }

/-- A condition on every row. -/
def check (expression : String) : Step := .constraint { rule := .check expression }

/-- Columns that refer to columns of another table. -/
def foreign (columns : List String) (table : String) (references : List String)
    (modifiers : List ForeignKey.Modifier) : Step :=
  .constraint (Constraint.foreign columns table references modifiers)

end Step

end SchemaSql.Table
