/-
The statements that create a table.

A table is created by one CREATE TABLE statement, and each of its indexes by a CREATE
INDEX statement after it. Between the parentheses of the first stands a list of
elements, and `Table.elements` is that list before any text is made of it: the columns,
then the primary key if it has several flagged columns, then the references of single
columns, then the declared constraints. A primary key of one flagged column is written
at the column instead.

As a script the statements are encoded, so that a semicolon in the caller's text does
not cut them (`Table.script`).
-/
import SchemaSql.Rendering.ColumnText
import SchemaSql.Rendering.Statement
import SchemaSql.Script
import SchemaSql.Table.Validity

set_option autoImplicit false

namespace SchemaSql

/-- One element between the parentheses of a CREATE TABLE statement. -/
inductive Element where
  | column (column : Column) (inlineKey : Bool)
  | constraint (constraint : Constraint)
  deriving DecidableEq, Repr

/-- The text of an element. -/
def Element.sql (d : Dialect) : Element → String
  | .column c inlineKey => d.columnText c inlineKey
  | .constraint c => c.sql

namespace Table

/-! ## Elements -/

/-- Whether the primary key is written at its column: exactly one column is flagged. -/
def hasInlineKey (t : Table) : Bool := t.keyColumns.length == 1

/-- A column that is the whole key has the key written at it. -/
theorem hasInlineKey_of_keyColumns {t : Table} {c : Column} (h : t.keyColumns = [c]) :
    t.hasInlineKey = true ∧ c.primaryKey = true := by
  have hmem : c ∈ t.keyColumns := h ▸ List.mem_singleton_self c
  refine ⟨?_, (List.mem_filter.mp hmem).2⟩
  rw [hasInlineKey, h]
  rfl

/-- The primary key that several flagged columns make together. -/
def compositeKey (t : Table) : List Constraint :=
  if 1 < t.keyColumns.length then [{ rule := .primaryKey t.keyColumnNames }] else []

/-- The constraints that the references of single columns amount to. -/
def columnReferences (t : Table) : List Constraint :=
  t.columns.filterMap fun c => c.references.map (Constraint.ofReference c.name)

theorem isPrimaryKey_of_mem_compositeKey {t : Table} {k : Constraint} (h : k ∈ t.compositeKey) :
    k.rule.isPrimaryKey = true := by
  rw [compositeKey] at h
  by_cases hseveral : 1 < t.keyColumns.length
  · rw [if_pos hseveral, List.mem_singleton] at h
    rw [h, Rule.isPrimaryKey]
  · rw [if_neg hseveral] at h
    cases h

theorem isPrimaryKey_of_mem_columnReferences {t : Table} {k : Constraint}
    (h : k ∈ t.columnReferences) : k.rule.isPrimaryKey = false := by
  obtain ⟨c, -, hc⟩ := List.mem_filterMap.mp h
  obtain ⟨r, -, rfl⟩ := Option.map_eq_some_iff.mp hc
  rfl

/-- **The elements of a table**, in the order in which they are written. -/
def elements (t : Table) : List Element :=
  t.columns.map (fun c => .column c (t.hasInlineKey && c.primaryKey))
    ++ (t.compositeKey ++ t.columnReferences ++ t.constraints).map .constraint

/-! ## Statements -/

/-- What stands before the elements. -/
def createHead (t : Table) : String :=
  "CREATE TABLE " ++ (if t.ifNotExists then "IF NOT EXISTS " else "") ++ t.name ++ " ("

/-- The CREATE TABLE statement. -/
def createStatement (d : Dialect) (t : Table) : String :=
  t.createHead ++ listed (t.elements.map (·.sql d)) ++ ");"

/-- The CREATE INDEX statements. -/
def indexStatements (t : Table) : List String :=
  t.allIndexes.map (·.createStatement t.name)

/-- **The statements of a table**, as they are to be run. -/
def statements (d : Dialect) (t : Table) : List String :=
  t.createStatement d :: t.indexStatements

/-- **The script of a table** that breaks no rule of the dialect. -/
def script (d : Dialect) (t : Table) : Except DefinitionError String :=
  match t.flaw? d with
  | some flaw => .error flaw
  | none => .ok (Script.ofStatements (t.statements d))

end Table

end SchemaSql
