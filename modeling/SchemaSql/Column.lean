/-
Columns, and the modifiers that shape one.

A column starts out bare: a name, a type, nothing else (`Column.bare`). Modifiers
are applied to it one after the other. Most of them set a flag and commute. Three
groups do not: `notNull`, `nullable` and `primaryKey` all decide on NULL and the last
one wins; a later default replaces an earlier one; and `references` starts a new
reference without actions, so that an action counts only if it comes after.

A modifier is data, so a sequence of them is a list and its effect is a fold
(`Column.modifyAll`).
-/
import SchemaSql.DataType
import SchemaSql.DefaultValue

set_option autoImplicit false

namespace SchemaSql

/-! ## References to other tables -/

/-- What happens to a row when the row that it refers to is changed or deleted. -/
inductive ReferentialAction where
  | noAction
  | restrict
  | cascade
  | setNull
  | setDefault
  /-- An action that the caller spells, written as it stands. -/
  | verbatim (sql : String)
  deriving DecidableEq, Repr

/-- The SQL text of an action. -/
def ReferentialAction.sql : ReferentialAction → String
  | .noAction => "NO ACTION"
  | .restrict => "RESTRICT"
  | .cascade => "CASCADE"
  | .setNull => "SET NULL"
  | .setDefault => "SET DEFAULT"
  | .verbatim sql => sql

/-- The column of another table that a column refers to. -/
structure Reference where
  table : String
  column : String
  onDelete : Option ReferentialAction := none
  onUpdate : Option ReferentialAction := none
  deriving DecidableEq, Repr

/-! ## Columns -/

/-- A column of a table. -/
structure Column where
  name : String
  type : DataType
  /-- Whether it may hold NULL. -/
  nullable : Bool := true
  default : Option DefaultValue := none
  /-- Whether it is the primary key, or a part of it. -/
  primaryKey : Bool := false
  unique : Bool := false
  /-- Whether the database generates its values. -/
  autoincrement : Bool := false
  /-- Whether an index on it is created with the table. -/
  index : Bool := false
  references : Option Reference := none
  deriving DecidableEq, Repr

namespace Column

/-- A column without modifiers. -/
def bare (name : String) (type : DataType) : Column := { name, type }

/-- One change to a column. -/
inductive Modifier where
  | notNull
  | nullable
  | primaryKey
  | unique
  | autoincrement
  | index
  | default (value : DefaultValue)
  | references (table column : String)
  | onDelete (action : ReferentialAction)
  | onUpdate (action : ReferentialAction)
  deriving DecidableEq, Repr

/-- **One modifier.** Being a primary key rules out NULL. An action changes nothing where the column
has no reference yet. -/
def modify (c : Column) : Modifier → Column
  | .notNull => { c with nullable := false }
  | .nullable => { c with nullable := true }
  | .primaryKey => { c with primaryKey := true, nullable := false }
  | .unique => { c with unique := true }
  | .autoincrement => { c with autoincrement := true }
  | .index => { c with index := true }
  | .default value => { c with default := some value }
  | .references table column => { c with references := some { table, column } }
  | .onDelete action =>
    { c with references := c.references.map fun r => { r with onDelete := some action } }
  | .onUpdate action =>
    { c with references := c.references.map fun r => { r with onUpdate := some action } }

/-- **Modifiers in order**, the first one first. -/
def modifyAll (c : Column) (modifiers : List Modifier) : Column := modifiers.foldl modify c

@[simp] theorem modifyAll_nil (c : Column) : c.modifyAll [] = c := rfl

@[simp] theorem modifyAll_cons (c : Column) (m : Modifier) (ms : List Modifier) :
    c.modifyAll (m :: ms) = (c.modify m).modifyAll ms := rfl

theorem modifyAll_append (c : Column) (ms ns : List Modifier) :
    c.modifyAll (ms ++ ns) = (c.modifyAll ms).modifyAll ns := by
  simp [modifyAll]

/-- No modifier changes the name or the type. -/
theorem name_modify (c : Column) (m : Modifier) : (c.modify m).name = c.name := by
  cases m <;> rfl

theorem type_modify (c : Column) (m : Modifier) : (c.modify m).type = c.type := by
  cases m <;> rfl

end Column

end SchemaSql
