/-
The auto-increment column in the statement of a table.

Each dialect has its own way to say that the database numbers the rows. Postgres has a
serial type for each width, MySQL a keyword, and SQLite a fixed text that takes the place of
everything else that would be said about the column. Three functions are involved, and the
last of them looks at nothing but the name of the column. What it leaves out is no loss only
because of the check of the table, which is somewhere else altogether.

The mark of a dialect is looked for in the text with the texts of the caller covered
(`Element.marks`). Its letters are common ones, so that no missing character rules it out,
and a keyword may well share a part with it. But a mark is a word, so that each part of an
element can be searched alone (`Dialect.ColumnsLack`, `ConstraintsLack`). An element has the
mark exactly if it is a column that asks for one (`marks_column`, `marks_constraint`), and in a
sound table one column does.

The text of that column is given in full for each dialect (`Table.IsNumberedBy`). There is no
default in it. On SQLite it differs from the usual text in the order of two clauses, and of
what the flags of a column can say only NOT NULL and UNIQUE are missing.
-/
import SchemaSql.Proofs.Table.Verdict
import SchemaSql.Proofs.Table.Words

set_option autoImplicit false

namespace SchemaSql

/-- The word by which a dialect marks a column whose values the database generates. Postgres has it
in the names of its serial types. -/
def Dialect.autoincrementMark : Dialect → List Char
  | .postgres => "SERIAL".toList
  | .mysql => "AUTO_INCREMENT".toList
  | .sqlite => "AUTOINCREMENT".toList

/-- **How often an element is marked as auto-increment**, the caller's texts aside. -/
def Element.marks (d : Dialect) (e : Element) : Nat :=
  occurrences d.autoincrementMark (Fragment.skeleton (e.fragments d))

namespace Dialect

/-! ## A column -/

theorem columnsLack_autoincrementMark (d : Dialect) : d.ColumnsLack d.autoincrementMark := by
  cases d <;> exact ⟨by decide, by decide, by decide, by decide⟩

/-- **A type is marked** where it is a serial type. -/
theorem marks_typeFragment (d : Dialect) (c : Column) :
    occurrences d.autoincrementMark (d.typeFragment c).visible
      = if d = .postgres ∧ c.autoincrement = true ∧ c.type.isInteger = true then 1 else 0 := by
  rw [d.columnsLack_autoincrementMark.occurrences_typeFragment]
  cases d with
  | postgres =>
    rw [serialType?]
    by_cases hauto : c.autoincrement = true
    · rw [if_pos hauto]
      -- The serial types are those that take the place of an integer type.
      cases c.type with
      | smallInteger | integer | bigInteger =>
        rw [if_pos ⟨rfl, hauto, rfl⟩]
        decide
      | _ =>
        rw [if_neg fun hserial => Bool.false_ne_true hserial.2.2]
        rfl
    · rw [if_neg hauto, if_neg fun hserial => hauto hserial.2.1]
      rfl
  | _ =>
    rw [if_neg fun hserial => Dialect.noConfusion hserial.1]
    rfl

/-- The mark of an ordinary column is its type or its keyword. -/
theorem marks_standardFragments (d : Dialect) (c : Column) (inlineKey : Bool) :
    occurrences d.autoincrementMark (Fragment.skeleton (d.standardFragments c inlineKey))
      = occurrences d.autoincrementMark (d.typeFragment c).visible
        + occurrences d.autoincrementMark
            (if c.autoincrement then d.autoincrementKeyword else "").toList := by
  have hlack := d.columnsLack_autoincrementMark
  have hnotNull : occurrences d.autoincrementMark " NOT NULL".toList = 0 := by
    cases d <;> decide
  have hunique : occurrences d.autoincrementMark " UNIQUE".toList = 0 := by
    cases d <;> decide
  have hkey : occurrences d.autoincrementMark " PRIMARY KEY".toList = 0 := by
    cases d <;> decide
  rw [hlack.occurrences_standardFragments, hlack.occurrences_bodyFragments,
    occurrences_clause hnotNull, occurrences_clause hunique, occurrences_clause hkey,
    Nat.add_zero, Nat.add_zero]

end Dialect

/-- **A column is marked** where it is auto-increment. -/
theorem Element.marks_column (d : Dialect) {c : Column}
    (h : c.autoincrement = true → c.type.isInteger = true) (inlineKey : Bool) :
    (Element.column c inlineKey).marks d = if c.autoincrement then 1 else 0 := by
  have hstandard := d.marks_standardFragments c inlineKey
  rw [d.marks_typeFragment c] at hstandard
  rw [Element.marks, Element.fragments]
  by_cases hauto : c.autoincrement = true
  · rw [if_pos hauto] at hstandard ⊢
    cases d with
    | postgres =>
      rw [Dialect.columnFragments, hstandard, if_pos ⟨rfl, hauto, h hauto⟩]
      decide
    | mysql =>
      rw [Dialect.columnFragments, hstandard, if_neg fun hserial => Dialect.noConfusion hserial.1]
      decide
    | sqlite =>
      rw [Dialect.columnFragments, if_pos hauto]
      show occurrences Dialect.sqlite.autoincrementMark "? INTEGER PRIMARY KEY AUTOINCREMENT".toList
        = 1
      decide
  · rw [if_neg hauto, if_neg fun hserial => hauto hserial.2.1] at hstandard
    rw [if_neg hauto]
    cases d with
    | sqlite =>
      rw [Dialect.columnFragments, if_neg hauto]
      exact hstandard
    | _ => exact hstandard

/-! ## A constraint -/

/-- **No constraint is marked.** -/
theorem Element.marks_constraint (d : Dialect) (k : Constraint) :
    (Element.constraint k).marks d = 0 := by
  have hlack : ConstraintsLack d.autoincrementMark := by
    cases d <;> exact ⟨by decide, by decide, by decide⟩
  have hkeyword : ∀ keyword ∈ ["PRIMARY KEY (", "UNIQUE (", "FOREIGN KEY (", "CHECK ("],
      occurrences d.autoincrementMark keyword.toList = 0 := by
    cases d <;> decide
  rw [Element.marks, Element.fragments, hlack.occurrences_fragments]
  cases k.rule with
  | primaryKey columns => exact hkeyword "PRIMARY KEY (" (by decide)
  | unique columns => exact hkeyword "UNIQUE (" (by decide)
  | foreignKey key => exact hkeyword "FOREIGN KEY (" (by decide)
  | check expression => exact hkeyword "CHECK (" (by decide)

/-! ## The text of the column -/

namespace Dialect

/-- An auto-increment column has no default, and then the ordinary text is made of its flags. -/
theorem standardColumnText_of_autoincrement (d : Dialect) {c : Column}
    (hauto : c.autoincrement = true) (hdefault : c.default = none) (inlineKey : Bool) :
    d.standardColumnText c inlineKey
      = c.name ++ " " ++ d.columnType c ++ (if !c.nullable && !inlineKey then " NOT NULL" else "")
        ++ d.autoincrementKeyword ++ (if c.unique && !inlineKey then " UNIQUE" else "")
        ++ (if inlineKey then " PRIMARY KEY" else "") := by
  rw [standardColumnText, columnClauses, hdefault, if_pos hauto]
  simp only [String.join_cons, String.join_nil, String.append_empty, String.empty_append,
    String.append_assoc]

/-- A serial type for each width, and none of them is the type itself. -/
theorem columnType_serial {c : Column} (hauto : c.autoincrement = true)
    (htype : c.type.isInteger = true) :
    (c.type, postgres.columnType c) ∈ [(.smallInteger, "SMALLSERIAL"), (.integer, "SERIAL"),
        (.bigInteger, "BIGSERIAL")]
      ∧ postgres.columnType c ≠ postgres.typeName c.type := by
  rw [columnType, if_pos hauto]
  cases hwidth : c.type with
  | smallInteger | integer | bigInteger => decide
  | _ =>
    rw [hwidth] at htype
    cases htype

theorem sqliteTypeName_of_isInteger {type : DataType} (h : type.isInteger = true) :
    sqliteTypeName type = "INTEGER" := by
  cases type with
  | smallInteger | integer | bigInteger => rfl
  | _ => cases h

end Dialect

/-! ## The elements of a table -/

namespace Table

variable {d : Dialect} {t : Table} {c : Column}

theorem autoincrementColumns_eq (hsound : t.IsSound d) (hc : c ∈ t.columns)
    (hauto : c.autoincrement = true) : t.autoincrementColumns = [c] := by
  have hmem : c ∈ t.autoincrementColumns := List.mem_filter.mpr ⟨hc, hauto⟩
  have hlength : t.autoincrementColumns.length = 1 :=
    Nat.le_antisymm hsound.oneAutoincrement (List.length_pos_of_mem hmem)
  obtain ⟨only, honly⟩ := List.length_eq_one_iff.mp hlength
  rw [honly, List.mem_singleton] at hmem
  rw [honly, hmem]

/-- **The marked elements** of a sound table are its auto-increment columns. -/
theorem filter_marks (hsound : t.IsSound d) :
    t.elements.filter (fun e => 0 < e.marks d)
      = t.autoincrementColumns.map fun c => .column c (t.hasInlineKey && c.primaryKey) := by
  have hcolumn : ∀ c ∈ t.columns,
      decide (0 < (Element.column c (t.hasInlineKey && c.primaryKey)).marks d)
        = c.autoincrement := by
    intro c hc
    rw [Element.marks_column d (hsound.autoincrementType c hc)]
    cases c.autoincrement <;> rfl
  have hconstraints : ∀ list : List Constraint,
      (list.map Element.constraint).filter (fun e => 0 < e.marks d) = [] := by
    intro list
    rw [List.filter_eq_nil_iff]
    intro e he
    obtain ⟨k, -, rfl⟩ := List.mem_map.mp he
    rw [Element.marks_constraint]
    decide
  rw [elements, List.filter_append, hconstraints, List.append_nil, List.filter_map,
    autoincrementColumns, ← List.filter_congr hcolumn]
  rfl

/-- **A column in the primary key is in the key that is written**, at the column or as a constraint
that lists it. -/
theorem key_covers (hc : c ∈ t.columns) (hkey : t.InPrimaryKey c) :
    (t.hasInlineKey && c.primaryKey) = true
      ∨ ∃ k columns, .constraint k ∈ t.elements ∧ k.rule = .primaryKey columns
          ∧ c.name ∈ columns := by
  rcases hkey with hflag | ⟨k, hk, columns, hrule, hname⟩
  · have hmem : c ∈ t.keyColumns := List.mem_filter.mpr ⟨hc, hflag⟩
    by_cases hone : t.keyColumns.length = 1
    · left
      rw [hasInlineKey, hone, hflag]
      rfl
    · right
      have hseveral : 1 < t.keyColumns.length := by
        have hpos := List.length_pos_of_mem hmem
        omega
      refine ⟨{ rule := .primaryKey t.keyColumnNames }, t.keyColumnNames, ?_, rfl,
        List.mem_map_of_mem hmem⟩
      refine List.mem_append_right _ (List.mem_map_of_mem ?_)
      rw [compositeKey, if_pos hseveral]
      exact List.mem_append_left _ (List.mem_append_left _ (List.mem_singleton_self _))
  · right
    exact ⟨k, columns, List.mem_append_right _ (List.mem_map_of_mem (List.mem_append_right _ hk)),
      hrule, hname⟩

/-- **What is written for the column `c` that numbers the rows** of a table. `text` is its text,
with the primary key at the column or not. -/
structure IsNumberedBy (d : Dialect) (t : Table) (c : Column) (inlineKey : Bool) (text : String) :
    Prop where
  onlyMarked : t.elements.filter (fun e => 0 < e.marks d) = [.column c inlineKey]
  markedOnce : (Element.column c inlineKey).marks d = 1
  noDefault : c.default = none
  postgres : d = .postgres → ∃ type, (c.type, type) ∈ [(.smallInteger, "SMALLSERIAL"),
      (.integer, "SERIAL"), (.bigInteger, "BIGSERIAL")]
    ∧ type ≠ d.typeName c.type
    ∧ text = c.name ++ " " ++ type ++ (if !c.nullable && !inlineKey then " NOT NULL" else "")
        ++ (if c.unique && !inlineKey then " UNIQUE" else "")
        ++ (if inlineKey then " PRIMARY KEY" else "")
  mysql : d = .mysql →
    text = c.name ++ " " ++ d.typeName c.type
        ++ (if !c.nullable && !inlineKey then " NOT NULL" else "") ++ " AUTO_INCREMENT"
        ++ (if c.unique && !inlineKey then " UNIQUE" else "")
        ++ (if inlineKey then " PRIMARY KEY" else "")
    ∧ (inlineKey = true ∨ ∃ k columns, .constraint k ∈ t.elements
        ∧ k.rule = .primaryKey columns ∧ c.name ∈ columns)
  /-- The text is that of a column with its key, but for the order of two clauses. Besides these
  only NOT NULL and UNIQUE could be said of the column. -/
  sqlite : d = .sqlite →
    text = c.name ++ " INTEGER PRIMARY KEY AUTOINCREMENT"
    ∧ inlineKey = true
    ∧ c.primaryKey = true
    ∧ d.typeName c.type = "INTEGER"
    ∧ d.standardColumnText c inlineKey
        = c.name ++ " INTEGER" ++ " AUTOINCREMENT" ++ " PRIMARY KEY"
    ∧ d.columnClauses c false = [if c.nullable then "" else " NOT NULL", "", " AUTOINCREMENT",
        if c.unique then " UNIQUE" else "", ""]
  reference : ∀ r ∈ c.references, .constraint (Constraint.ofReference c.name r) ∈ t.elements
  index : c.index = true →
    (Index.forTable t.name [c.name] false).createStatement t.name ∈ t.indexStatements

/-- **The auto-increment column of an accepted table.** It is the only one that the statement marks,
and what the statement says about it is all that was declared. -/
theorem accepted_table_marks_autoincrement {sql : String} (h : t.script d = .ok sql)
    (hc : c ∈ t.columns) (hauto : c.autoincrement = true) :
    Script.statements sql
        = (t.createHead ++ listed (t.elements.map fun e => Fragment.join (e.fragments d)) ++ ");")
          :: t.indexStatements
      ∧ ∃ inlineKey, t.IsNumberedBy d c inlineKey
          (Fragment.join ((Element.column c inlineKey).fragments d)) := by
  obtain ⟨hflaw, rfl⟩ := script_eq_ok_iff.mp h
  have hsound : t.IsSound d := flaw?_eq_none_iff.mp hflaw
  have htype := hsound.autoincrementType c hc hauto
  have hdefault := hsound.autoincrementDefault c hc hauto
  have hmarks := Element.marks_column d (fun _ => htype) (t.hasInlineKey && c.primaryKey)
  have hstandard := d.standardColumnText_of_autoincrement hauto hdefault
    (t.hasInlineKey && c.primaryKey)
  constructor
  · rw [statements_ofStatements, ← createStatement_eq_fragments]
    rfl
  refine ⟨t.hasInlineKey && c.primaryKey, ?_⟩
  rw [Element.join_fragments, Element.sql]
  exact
    { onlyMarked := by rw [filter_marks hsound, autoincrementColumns_eq hsound hc hauto]; rfl
      markedOnce := by rw [hmarks, if_pos hauto]
      noDefault := hdefault
      postgres := by
        rintro rfl
        obtain ⟨hserial, hplain⟩ := Dialect.columnType_serial hauto htype
        refine ⟨Dialect.postgres.columnType c, hserial, hplain, ?_⟩
        rw [Dialect.columnText, hstandard, Dialect.autoincrementKeyword, String.append_empty]
      mysql := by
        rintro rfl
        exact ⟨hstandard, key_covers hc (hsound.autoincrementKeyed c hc hauto (.inl rfl))⟩
      sqlite := by
        rintro rfl
        have hsole : t.keyColumns = [c] := hsound.autoincrementSoleKey c hc hauto rfl
        obtain ⟨hkey, hflag⟩ := hasInlineKey_of_keyColumns hsole
        have hinline : (t.hasInlineKey && c.primaryKey) = true := by rw [hkey, hflag, Bool.and_true]
        have hinteger : Dialect.sqlite.columnType c = "INTEGER" :=
          Dialect.sqliteTypeName_of_isInteger htype
        rw [hinline] at hstandard ⊢
        refine ⟨by rw [Dialect.columnText, if_pos hauto], rfl, hflag, hinteger, ?_, ?_⟩
        · -- The key is at the column, so that the flags say nothing.
          have hhead : c.name ++ " " ++ "INTEGER" = c.name ++ " INTEGER" := String.append_assoc
          rw [hstandard, hinteger, hhead, Bool.not_true, Bool.and_false, Bool.and_false]
          simp only [Bool.false_eq_true, if_false, String.append_empty]
          rfl
        · rw [Dialect.columnClauses, hdefault, hauto]
          cases c.nullable <;> cases c.unique <;> rfl
      reference := by
        intro r hr
        refine List.mem_append_right _ (List.mem_map_of_mem ?_)
        refine List.mem_append_left _ (List.mem_append_right _ ?_)
        exact List.mem_filterMap.mpr ⟨c, hc, by rw [hr]; rfl⟩
      index := by
        intro hindex
        refine List.mem_map_of_mem (List.mem_append_left _ ?_)
        exact List.mem_map_of_mem (List.mem_filter.mpr ⟨hc, hindex⟩) }

/-- A table for SQLite in which callers write of auto-increment as well. -/
def numberedLines : Table where
  name := "lines"
  columns :=
    [{ name := "kind", type := .custom "TEXT /* no AUTOINCREMENT */" },
     { name := "id", type := .bigInteger, nullable := false, primaryKey := true, unique := true
       autoincrement := true, index := true
       references := some { table := "orders", column := "id", onDelete := some .cascade } },
     { name := "note", type := .string 40, default := some (.string "AUTOINCREMENT") }]
  constraints := [{ name := some "AUTOINCREMENT", rule := .check "kind <> ' AUTOINCREMENT'" }]

theorem numberedLines_marks_autoincrement :
    ∃ c ∈ numberedLines.columns, c.autoincrement = true
      ∧ numberedLines.script .sqlite
          = .ok (Script.ofStatements (numberedLines.statements .sqlite))
      ∧ (numberedLines.elements.filter fun e => 0 < e.marks .sqlite).map (·.sql .sqlite)
          = ["id INTEGER PRIMARY KEY AUTOINCREMENT"]
      ∧ .constraint { rule := .foreignKey { columns := ["id"], table := "orders"
                                            references := ["id"], onDelete := some .cascade } }
          ∈ numberedLines.elements
      ∧ "CREATE INDEX lines_id_index ON lines (id);" ∈ numberedLines.indexStatements := by
  have hscript : numberedLines.script .sqlite
      = .ok (Script.ofStatements (numberedLines.statements .sqlite)) :=
    script_eq_ok_iff.mpr ⟨by decide +kernel, rfl⟩
  let c : Column :=
    { name := "id", type := .bigInteger, nullable := false, primaryKey := true, unique := true
      autoincrement := true, index := true
      references := some { table := "orders", column := "id", onDelete := some .cascade } }
  have hc : c ∈ numberedLines.columns := by decide
  obtain ⟨-, inlineKey, hnumbered⟩ := accepted_table_marks_autoincrement hscript hc rfl
  refine ⟨c, hc, rfl, hscript, ?_, hnumbered.reference _ rfl, hnumbered.index rfl⟩
  rw [hnumbered.onlyMarked, (hnumbered.sqlite rfl).2.1]
  decide

end Table

end SchemaSql
