/-
The elements of a created table are found in its text.

A CREATE TABLE statement is a text, and its reader has nothing else. The columns and
constraints that were meant are what the reader finds only if no type, default or
expression reaches past its element. This file says when that is so. It asks that names
are plain and that what the caller writes in SQL is closed (`Table.IsClosed`), and of
string defaults it asks nothing.

The columns that a constraint lists need no condition of their own. A table that can be
created is sound, and so they are columns of the table, whose names are plain.
-/
import SchemaSql.Proofs.Sql.ElementList
import SchemaSql.Proofs.Table.ElementText
import SchemaSql.Proofs.Table.Verdict

set_option autoImplicit false

namespace SchemaSql.Table

/-- **A closed table.** Its name is plain, and its columns and constraints are closed. -/
structure IsClosed (t : Table) : Prop where
  name : IsPlain t.name
  columns : ∀ c ∈ t.columns, c.IsClosed
  constraints : ∀ k ∈ t.constraints, k.IsClosed

instance (t : Table) : Decidable t.IsClosed :=
  decidable_of_iff
    (IsPlain t.name ∧ (∀ c ∈ t.columns, c.IsClosed) ∧ ∀ k ∈ t.constraints, k.IsClosed)
    ⟨fun ⟨name, columns, constraints⟩ => ⟨name, columns, constraints⟩,
      fun h => ⟨h.name, h.columns, h.constraints⟩⟩

/-! ## Every element in one piece -/

theorem IsClosed.isPlain_of_mem_columnNames {t : Table} (h : t.IsClosed) {name : String}
    (hname : name ∈ t.columnNames) : IsPlain name := by
  obtain ⟨c, hc, rfl⟩ := List.mem_map.mp hname
  exact (h.columns c hc).name

/-- The primary key of several flagged columns. -/
theorem isOnePiece_of_mem_compositeKey {t : Table} (h : t.IsClosed) {k : Constraint}
    (hk : k ∈ t.compositeKey) : IsOnePiece k.sql := by
  rw [compositeKey] at hk
  by_cases hseveral : 1 < t.keyColumns.length
  · rw [if_pos hseveral, List.mem_singleton] at hk
    have hplain : ∀ name ∈ t.keyColumnNames, IsPlain name := by
      intro name hname
      obtain ⟨c, hc, rfl⟩ := List.mem_map.mp hname
      exact (h.columns c (List.mem_filter.mp hc).1).name
    rw [hk]
    exact isOnePiece_constraint hplain ⟨fun _ hname => (Option.not_mem_none _ hname).elim, trivial⟩
  · rw [if_neg hseveral] at hk
    cases hk

/-- The reference of a column, written as a foreign key. -/
theorem isOnePiece_of_mem_columnReferences {t : Table} (h : t.IsClosed) {k : Constraint}
    (hk : k ∈ t.columnReferences) : IsOnePiece k.sql := by
  obtain ⟨c, hc, hreference⟩ := List.mem_filterMap.mp hk
  obtain ⟨r, hr, rfl⟩ := Option.map_eq_some_iff.mp hreference
  have hcolumn := h.columns c hc
  have hclosed := hcolumn.references r hr
  have hkey : (Constraint.ofReference c.name r).rule.IsClosed := by
    refine ⟨hclosed.table, ?_, hclosed.onDelete, hclosed.onUpdate⟩
    intro name hname
    rw [List.mem_singleton.mp hname]
    exact hclosed.column
  have hplain : ∀ name ∈ (Constraint.ofReference c.name r).columns, IsPlain name := by
    intro name hname
    rw [List.mem_singleton.mp hname]
    exact hcolumn.name
  exact isOnePiece_constraint hplain ⟨fun _ hname => (Option.not_mem_none _ hname).elim, hkey⟩

/-- A declared constraint. Its columns are columns of the table, since the table is sound. -/
theorem isOnePiece_of_mem_constraints {d : Dialect} {t : Table} (hsound : t.IsSound d)
    (h : t.IsClosed) {k : Constraint} (hk : k ∈ t.constraints) : IsOnePiece k.sql := by
  have hplain : ∀ name ∈ k.columns, IsPlain name := by
    intro name hname
    -- A check lists nothing, so this is one of the rules about columns.
    have hrule : ∀ expression, k.rule ≠ .check expression := by
      intro expression hcheck
      rw [Constraint.columns, hcheck] at hname
      cases hname
    exact h.isPlain_of_mem_columnNames ((hsound.constraintColumns k hk hrule).2 name hname)
  exact isOnePiece_constraint hplain (h.constraints k hk)

/-- **Every element of a table is in one piece.** -/
theorem isOnePiece_of_mem_elements {d : Dialect} {t : Table} (hsound : t.IsSound d)
    (h : t.IsClosed) {e : Element} (he : e ∈ t.elements) : IsOnePiece (e.sql d) := by
  rw [elements, List.mem_append, List.mem_map, List.mem_map] at he
  rcases he with ⟨c, hc, rfl⟩ | ⟨k, hk, rfl⟩
  · exact isOnePiece_columnText d (h.columns c hc) _
  · rw [List.mem_append, List.mem_append] at hk
    rcases hk with (hk | hk) | hk
    · exact isOnePiece_of_mem_compositeKey h hk
    · exact isOnePiece_of_mem_columnReferences h hk
    · exact isOnePiece_of_mem_constraints hsound h hk

/-! ## Reading the statement -/

/-- What stands before the parenthesis is plain. -/
theorem isPlain_beforeElements {t : Table} (h : t.IsClosed) :
    IsPlain ("CREATE TABLE " ++ (if t.ifNotExists then "IF NOT EXISTS " else "") ++ t.name
      ++ " ") := by
  have hcreate : IsPlain "CREATE TABLE " := by decide
  have hblank : IsPlain " " := by decide
  have hcondition : IsPlain (if t.ifNotExists then "IF NOT EXISTS " else "") := by
    rcases t.ifNotExists with _ | _ <;> decide
  exact ((hcreate.append hcondition).append h.name).append hblank

theorem elements_ne_nil {t : Table} (h : t.columns ≠ []) : t.elements ≠ [] := by
  rw [elements]
  intro hnil
  exact h (List.map_eq_nil_iff.mp (List.append_eq_nil_iff.mp hnil).1)

/-- The statement of a sound and closed table is read as its elements. -/
theorem listElements?_createStatement {d : Dialect} {t : Table} (hsound : t.IsSound d)
    (h : t.IsClosed) :
    listElements? (t.createStatement d) = some (t.elements.map (·.sql d), ";") := by
  have hne : t.elements.map (·.sql d) ≠ [] := by
    rw [ne_eq, List.map_eq_nil_iff]
    exact elements_ne_nil hsound.hasColumn
  refine listElements?_eq ?_ (isPlain_beforeElements h) hne ?_
  · -- The head ends in the parenthesis and the terminator follows the other one.
    rw [createStatement, createHead, show " (" = " " ++ "(" from rfl, ← String.append_assoc,
      show ");" = ")" ++ ";" from rfl, ← String.append_assoc]
  · intro s hs
    obtain ⟨e, he, rfl⟩ := List.mem_map.mp hs
    exact isOnePiece_of_mem_elements hsound h he

/-- The texts of the elements: columns, the key of several columns, references, constraints. -/
theorem map_sql_elements (d : Dialect) (t : Table) :
    t.elements.map (·.sql d)
      = (t.columns.map fun column => d.columnText column (t.hasInlineKey && column.primaryKey))
        ++ (if 1 < t.keyColumns.length then ["PRIMARY KEY (" ++ listed t.keyColumnNames ++ ")"]
            else [])
        ++ (t.columns.filterMap fun column =>
              column.references.map fun r => (Constraint.ofReference column.name r).sql)
        ++ t.constraints.map (·.sql) := by
  have hkey : t.compositeKey.map (·.sql)
      = if 1 < t.keyColumns.length then ["PRIMARY KEY (" ++ listed t.keyColumnNames ++ ")"]
        else [] := by
    rw [compositeKey]
    by_cases hseveral : 1 < t.keyColumns.length
    · rw [if_pos hseveral, if_pos hseveral]
      rfl
    · rw [if_neg hseveral, if_neg hseveral]
      rfl
  have hreferences : t.columnReferences.map (·.sql)
      = t.columns.filterMap fun column =>
          column.references.map fun r => (Constraint.ofReference column.name r).sql := by
    rw [columnReferences, List.map_filterMap]
    congr 1
    funext column
    rw [Option.map_map]
    rfl
  rw [elements, List.map_append, List.map_map, List.map_map, List.map_append, List.map_append,
    ← hkey, ← hreferences, ← List.append_assoc, ← List.append_assoc]
  rfl

/-- **The statement of a created table lists what was declared**: the columns in order, a primary
key if several columns are flagged, the references of columns in the order of the columns, and the
declared constraints in order. Its list closes right before the terminator. -/
theorem created_statement_lists_elements {c c' : Changeset} {t : Table}
    (hcreate : c.create t = .ok c') (hclosed : t.IsClosed) :
    c'.statements = c.statements ++ t.createStatement c.dialect :: t.indexStatements
      ∧ listElements? (t.createStatement c.dialect) = some
        ((t.columns.map fun column =>
            c.dialect.columnText column (t.hasInlineKey && column.primaryKey))
          ++ (if 1 < t.keyColumns.length then ["PRIMARY KEY (" ++ listed t.keyColumnNames ++ ")"]
              else [])
          ++ (t.columns.filterMap fun column =>
                column.references.map fun r => (Constraint.ofReference column.name r).sql)
          ++ t.constraints.map (·.sql), ";") := by
  obtain ⟨hflaw, rfl⟩ := Changeset.create_eq_ok_iff.mp hcreate
  refine ⟨rfl, ?_⟩
  rw [listElements?_createStatement (flaw?_eq_none_iff.mp hflaw) hclosed, map_sql_elements]

/-- A table with quotes, commas and parentheses in its texts. -/
def intricate : Table where
  name := "orders"
  columns :=
    [{ name := "id", type := .bigInteger, nullable := false, primaryKey := true },
     { name := "line", type := .custom "ENUM('a,(', 'b''')"
       nullable := false, primaryKey := true },
     { name := "price", type := .decimal 10 2, default := some (.expression "round(1.5, 2)") },
     { name := "note", type := .text, default := some (.string "it's, (a) 'b')") },
     { name := "owner", type := .integer
       references := some
         { table := "users", column := "id", onDelete := some (.verbatim "SET NULL (a, b)") } }]
  constraints := [{ name := some "listed", rule := .check "price in (1, 2), note <> ','" }]
  ifNotExists := true

theorem intricate_created_statement_lists_elements :
    (Changeset.new .postgres).create intricate
        = .ok { Changeset.new .postgres with statements := intricate.statements .postgres }
      ∧ intricate.IsClosed
      ∧ listElements? (intricate.createStatement .postgres) = some
        (["id BIGINT NOT NULL",
          "line ENUM('a,(', 'b''') NOT NULL",
          "price DECIMAL(10, 2) DEFAULT round(1.5, 2)",
          "note TEXT DEFAULT 'it''s, (a) ''b'')'",
          "owner INTEGER",
          "PRIMARY KEY (id, line)",
          "FOREIGN KEY (owner) REFERENCES users(id) ON DELETE SET NULL (a, b)",
          "CONSTRAINT listed CHECK (price in (1, 2), note <> ',')"], ";") := by
  have hcreate : (Changeset.new .postgres).create intricate
      = .ok { Changeset.new .postgres with statements := intricate.statements .postgres } :=
    Changeset.create_eq_ok_iff.mpr ⟨by decide +kernel, rfl⟩
  have hclosed : intricate.IsClosed := by decide +kernel
  refine ⟨hcreate, hclosed, (created_statement_lists_elements hcreate hclosed).2.trans ?_⟩
  decide +kernel

end SchemaSql.Table
