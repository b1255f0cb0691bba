/-
The rules for tables, stated without an order.

`SchemaSql.Table.Validity` asks rule after rule and stops at the first one that is broken.
Here the same rules are predicates. `Table.IsSound` is the whole list of what a table has
to satisfy, and no part of it depends on another. `Table.Breaks` says for each error what
is wrong with a table to which it applies, down to the column that the error names. Both
are about the table as it was declared: how many keys there are, which column stands
where, which names are known.

What remains of the order is a number for each error (`DefinitionError.rank`). The rules
about column lists share the last number, because of these the first list that is at
fault counts, not the kind of fault. Constraints and indexes are one sequence for this
purpose (`Table.listings`).
-/
import SchemaSql.Table.Validity

set_option autoImplicit false

namespace SchemaSql

/-- The place of a rule in the order of the rules. -/
def DefinitionError.rank : DefinitionError → Nat
  | .noColumns _ => 0
  | .duplicateColumn _ _ => 1
  | .severalPrimaryKeys _ => 2
  | .severalAutoincrement _ => 3
  | .autoincrementType _ _ _ => 4
  | .autoincrementDefault _ _ => 5
  | .autoincrementNoKey _ _ _ => 6
  | .autoincrementNotSoleKey _ _ _ => 7
  | .emptyColumnList _ _ | .unknownColumn _ _ => 8
  | .noTables => 9

/-! ## Column lists -/

/-- What a constraint or an index lists. -/
structure Listing where
  kind : ColumnList
  columns : List String
  /-- The columns of the other table, for a foreign key. -/
  references : Option (List String) := none

/-- The listing of a rule; a check has none. -/
def Rule.listing? : Rule → Option Listing
  | .primaryKey columns => some { kind := .primaryKey, columns }
  | .unique columns => some { kind := .unique, columns }
  | .foreignKey key =>
    some { kind := .foreignKey, columns := key.columns, references := some key.references }
  | .check _ => none

/-- The listing of a declared index. -/
def Index.listing (i : Index) : Listing := { kind := .index, columns := i.columns }

/-- **The listings of a table**: those of its constraints, then those of its declared indexes. -/
def Table.listings (t : Table) : List Listing :=
  t.constraints.filterMap (·.rule.listing?) ++ t.indexes.map Index.listing

/-- Whether a list is empty that must not be. -/
def Listing.IsIncomplete (l : Listing) : Prop := l.columns = [] ∨ l.references = some []

instance (l : Listing) : Decidable l.IsIncomplete :=
  inferInstanceAs (Decidable (l.columns = [] ∨ l.references = some []))

/-- **A fault of a listing.** A list is empty, or else the error names the first column that the
table does not have. -/
def Listing.HasFault (t : Table) (l : Listing) : DefinitionError → Prop
  | .emptyColumnList table kind => table = t.name ∧ kind = l.kind ∧ l.IsIncomplete
  | .unknownColumn table column =>
    table = t.name ∧ ¬l.IsIncomplete ∧ column ∉ t.columnNames
      ∧ ∃ before after, l.columns = before ++ column :: after
          ∧ ∀ name ∈ before, name ∈ t.columnNames
  | _ => False

namespace Table

/-! ## Keys -/

/-- Whether a column is in the primary key: it is flagged, or a declared key lists it. -/
def InPrimaryKey (t : Table) (c : Column) : Prop :=
  c.primaryKey = true
    ∨ ∃ k ∈ t.constraints, ∃ columns, k.rule = .primaryKey columns ∧ c.name ∈ columns

/-- Whether a column is flagged as primary key and no other one is. -/
def IsSoleKey (t : Table) (c : Column) : Prop := t.columns.filter (·.primaryKey) = [c]

/-! ## Soundness -/

/-- **A sound table** for a dialect: everything that the rules ask. -/
structure IsSound (d : Dialect) (t : Table) : Prop where
  hasColumn : t.columns ≠ []
  distinctNames : t.columnNames.Nodup
  /-- At most one primary key is declared by the table. -/
  oneDeclaredKey : t.tableKeys.length ≤ 1
  /-- None is declared by the table where columns are flagged. -/
  oneKindOfKey : (∃ c ∈ t.columns, c.primaryKey = true) → t.tableKeys = []
  oneAutoincrement : t.autoincrementColumns.length ≤ 1
  autoincrementType : ∀ c ∈ t.columns, c.autoincrement = true → c.type.isInteger = true
  autoincrementDefault : ∀ c ∈ t.columns, c.autoincrement = true → c.default = none
  autoincrementKeyed :
    ∀ c ∈ t.columns, c.autoincrement = true → d = .mysql ∨ d = .sqlite → t.InPrimaryKey c
  autoincrementSoleKey :
    ∀ c ∈ t.columns, c.autoincrement = true → d = .sqlite → t.IsSoleKey c
  /-- A constraint other than a check lists columns of the table, and at least one. -/
  constraintColumns :
    ∀ k ∈ t.constraints, (∀ expression, k.rule ≠ .check expression) →
      k.columns ≠ [] ∧ ∀ name ∈ k.columns, name ∈ t.columnNames
  foreignKeyReferences :
    ∀ k ∈ t.constraints, ∀ key, k.rule = .foreignKey key → key.references ≠ []
  indexColumns :
    ∀ i ∈ t.indexes, i.columns ≠ [] ∧ ∀ name ∈ i.columns, name ∈ t.columnNames

/-! ## Errors -/

/-- **A broken rule.** Whether a table breaks the rule of an error in the way that the error
tells. -/
def Breaks (d : Dialect) (t : Table) : DefinitionError → Prop
  | .noColumns table => table = t.name ∧ t.columns = []
  | .duplicateColumn table column =>
    -- The first name that stands a second time.
    table = t.name ∧ ∃ before after,
      t.columnNames = before ++ column :: after ∧ before.Nodup ∧ column ∈ before
  | .severalPrimaryKeys table =>
    table = t.name ∧ (1 < t.tableKeys.length
      ∨ t.tableKeys.length = 1 ∧ ∃ c ∈ t.columns, c.primaryKey = true)
  | .severalAutoincrement table => table = t.name ∧ 1 < t.autoincrementColumns.length
  | .autoincrementType table column type =>
    table = t.name ∧ ∃ c, t.autoincrementColumns = [c] ∧ column = c.name ∧ type = c.type
      ∧ c.type.isInteger = false
  | .autoincrementDefault table column =>
    table = t.name ∧ ∃ c, t.autoincrementColumns = [c] ∧ column = c.name ∧ c.default ≠ none
  | .autoincrementNoKey table column dialect =>
    table = t.name ∧ dialect = d ∧ (d = .mysql ∨ d = .sqlite)
      ∧ ∃ c, t.autoincrementColumns = [c] ∧ column = c.name ∧ ¬t.InPrimaryKey c
  | .autoincrementNotSoleKey table column dialect =>
    table = t.name ∧ dialect = d ∧ d = .sqlite
      ∧ ∃ c, t.autoincrementColumns = [c] ∧ column = c.name ∧ ¬t.IsSoleKey c
  | .noTables => False
  | e =>
    -- Faults of lists: the first listing that has one.
    ∃ before l after, t.listings = before ++ l :: after ∧ l.HasFault t e
      ∧ ∀ b ∈ before, ∀ e', ¬b.HasFault t e'

end Table

end SchemaSql
