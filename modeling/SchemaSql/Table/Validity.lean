/-
Whether a table can be created.

Nothing is written for a table that contradicts itself, and the answer here says why:
`Table.flaw?` is the first rule that the table breaks, or nothing. The rules are about
names (there are columns, no two share a name, constraints and indexes list columns
that exist), about the primary key (it is declared once) and about auto-increment (one
integer column without a default, and in some dialects a key).

Each rule is a function of its own that gives the error if the table breaks it, and the
order in which they are asked is the order of `Table.flaw?`.
-/
import SchemaSql.Error
import SchemaSql.Table

set_option autoImplicit false

namespace SchemaSql

/-- What kind of column list a rule is, if it lists columns. -/
def Rule.columnList? : Rule → Option ColumnList
  | .primaryKey _ => some .primaryKey
  | .unique _ => some .unique
  | .foreignKey _ => some .foreignKey
  | .check _ => none

/-- Whether a list that the rule needs is empty. -/
def Rule.hasEmptyList : Rule → Bool
  | .primaryKey columns => columns.isEmpty
  | .unique columns => columns.isEmpty
  | .foreignKey key => key.columns.isEmpty || key.references.isEmpty
  | .check _ => false

namespace Table

/-! ## Columns -/

/-- The first name of a list that stands in it before, or in `seen`. -/
def firstRepeat? (seen : List String) : List String → Option String
  | [] => none
  | name :: rest => if name ∈ seen then some name else firstRepeat? (name :: seen) rest

/-- There is a column. -/
def emptyFlaw? (t : Table) : Option DefinitionError :=
  if t.columns.isEmpty then some (.noColumns t.name) else none

/-- No two columns share a name. -/
def nameFlaw? (t : Table) : Option DefinitionError :=
  (firstRepeat? [] t.columnNames).map (.duplicateColumn t.name)

/-! ## Keys -/

/-- The primary key is declared once: by the table, or by columns. -/
def keyFlaw? (t : Table) : Option DefinitionError :=
  if 1 < t.tableKeys.length ∨ (t.tableKeys ≠ [] ∧ t.keyColumns ≠ []) then
    some (.severalPrimaryKeys t.name)
  else none

/-- Whether a column is part of the primary key, by its own flag or by a declaration of the
table. -/
def isKeyed (t : Table) (c : Column) : Bool :=
  c.primaryKey || t.tableKeys.any fun key => key.columns.contains c.name

/-! ## Auto-increment -/

/-- The column that numbers the rows can do so in the dialect. -/
def autoincrementColumnFlaw? (d : Dialect) (t : Table) (c : Column) : Option DefinitionError :=
  if !c.type.isInteger then some (.autoincrementType t.name c.name c.type)
  else if c.default.isSome then some (.autoincrementDefault t.name c.name)
  else if d.requiresKeyedAutoincrement && !t.isKeyed c then
    some (.autoincrementNoKey t.name c.name d)
  else if d.requiresSoleKeyAutoincrement && (!c.primaryKey || 1 < t.keyColumns.length) then
    some (.autoincrementNotSoleKey t.name c.name d)
  else none

/-- There is at most one column that numbers the rows. -/
def autoincrementFlaw? (d : Dialect) (t : Table) : Option DefinitionError :=
  match t.autoincrementColumns with
  | [] => none
  | [c] => t.autoincrementColumnFlaw? d c
  | _ => some (.severalAutoincrement t.name)

/-! ## Column lists -/

/-- All columns that are listed exist. -/
def unknownColumnFlaw? (t : Table) (columns : List String) : Option DefinitionError :=
  (columns.find? fun name => !t.columnNames.contains name).map (.unknownColumn t.name)

/-- A constraint lists columns, and they exist. Nothing is asked of a check. -/
def constraintFlaw? (t : Table) (c : Constraint) : Option DefinitionError :=
  match c.rule.columnList? with
  | none => none
  | some list =>
    if c.rule.hasEmptyList then some (.emptyColumnList t.name list)
    else t.unknownColumnFlaw? c.columns

/-- A declared index lists columns, and they exist. -/
def indexFlaw? (t : Table) (i : Index) : Option DefinitionError :=
  if i.columns.isEmpty then some (.emptyColumnList t.name .index)
  else t.unknownColumnFlaw? i.columns

/-- Everything that is said about column lists, constraints first. -/
def columnListFlaw? (t : Table) : Option DefinitionError :=
  (t.constraints.findSome? t.constraintFlaw?).or (t.indexes.findSome? t.indexFlaw?)

/-! ## The whole table -/

/-- **The first rule that a table breaks** in a dialect, if it breaks any. -/
def flaw? (d : Dialect) (t : Table) : Option DefinitionError :=
  t.emptyFlaw?.or <| t.nameFlaw?.or <| t.keyFlaw?.or <| (t.autoincrementFlaw? d).or <|
    t.columnListFlaw?

end Table

end SchemaSql
