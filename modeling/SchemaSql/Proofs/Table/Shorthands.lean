/-
Shorthands of columns and what they stand for.

A column can say three things that a table can say about it as well: that it belongs to
the primary key, that it refers to a column of another table, and that it has an index.
The first is a shorthand only where several columns say it, for a single one is written
at the column. `Table.spelledOut` is the table in which the table itself says all this.
It declares the key of the flagged columns, then a foreign key for each reference, before
its own constraints, and an index for each column that asks for one before its own
indexes.

Nothing can tell the two tables apart (`spelled_out_script`). They are written the same
because an element is made of a flag exactly where the other table declares it. That they
are checked the same is less plain, since the check asks about flags and about declared
keys in different places. Two flags and a declared key are one key too many in either
spelling. An auto-increment column is in a key that lists it by name exactly if it is
flagged, which is true because no two columns share a name; where they do, the check has
already refused both tables. And a sole key is missed either way, once for the second
flag and once for the flag that is gone. What is declared for a column lists that
column, so no listing in front can be at fault (`columnListFlaw?_spelledOut`).
-/
import Mathlib.Data.List.Nodup
import SchemaSql.Proofs.Table.Verdict

set_option autoImplicit false

namespace SchemaSql

/-- A column that leaves to the table what the table can say. Its flag as primary key stays only
where `keepsFlag` says so. -/
def Column.withoutShorthands (c : Column) (keepsFlag : Bool) : Column :=
  { c with primaryKey := keepsFlag && c.primaryKey, references := none, index := false }

/-- The text of a column comes from nothing that is left to the table. -/
theorem Dialect.columnText_withoutShorthands (d : Dialect) (c : Column)
    (keepsFlag inlineKey : Bool) :
    d.columnText (c.withoutShorthands keepsFlag) inlineKey = d.columnText c inlineKey := by
  cases d <;> rfl

namespace Table

/-! ## Spelling out -/

/-- Whether a flag stays at its column. It does unless there are at least two of them. -/
def keepsFlag (t : Table) : Bool := decide ((t.columns.filter (·.primaryKey)).length < 2)

/-- The key of the flagged columns, where there are several. -/
def spelledOutKey (t : Table) : List Constraint :=
  if t.keepsFlag then []
  else [{ rule := .primaryKey ((t.columns.filter (·.primaryKey)).map (·.name)) }]

/-- The references of the columns as foreign keys. -/
def spelledOutReferences (t : Table) : List Constraint :=
  t.columns.filterMap fun c => c.references.map fun r =>
    { rule := .foreignKey
        { columns := [c.name], table := r.table, references := [r.column]
          onDelete := r.onDelete, onUpdate := r.onUpdate } }

/-- The indexes that columns ask for. -/
def spelledOutIndexes (t : Table) : List Index :=
  (t.columns.filter (·.index)).map fun c => Index.forTable t.name [c.name] false

/-- **The table with its shorthands spelled out.** Keys, references and indexes of columns are
declared by the table, in the order of the columns and before its own declarations. -/
def spelledOut (t : Table) : Table where
  name := t.name
  columns := t.columns.map (·.withoutShorthands t.keepsFlag)
  constraints := t.spelledOutKey ++ t.spelledOutReferences ++ t.constraints
  indexes := t.spelledOutIndexes ++ t.indexes
  ifNotExists := t.ifNotExists

variable {d : Dialect} {t : Table}

/-! ## The flags -/

theorem keepsFlag_iff : t.keepsFlag = true ↔ t.keyColumns.length < 2 := decide_eq_true_iff

theorem keepsFlag_eq_false_iff : t.keepsFlag = false ↔ 1 < t.keyColumns.length := by
  rw [keepsFlag, decide_eq_false_iff_not, Nat.not_lt]
  rfl

/-- The flags that are left: all of them where there is at most one, and otherwise none. -/
theorem keyColumns_spelledOut : t.spelledOut.keyColumns
    = if t.keepsFlag then t.keyColumns.map (·.withoutShorthands true) else [] := by
  rw [keyColumns, spelledOut, List.filter_map]
  rcases t.keepsFlag with _ | _
  · simp [Function.comp_def, Column.withoutShorthands]
  · rw [if_pos rfl, keyColumns]
    simp [Function.comp_def, Column.withoutShorthands]

theorem spelledOutKey_eq : t.spelledOutKey = t.compositeKey := by
  rw [spelledOutKey, compositeKey]
  cases hkeep : t.keepsFlag with
  | true =>
    have hfew := keepsFlag_iff.mp hkeep
    rw [if_pos rfl, if_neg (by omega)]
  | false =>
    rw [if_neg Bool.false_ne_true, if_pos (keepsFlag_eq_false_iff.mp hkeep)]
    rfl

theorem spelledOutReferences_eq : t.spelledOutReferences = t.columnReferences := rfl

theorem tableKeys_spelledOut : t.spelledOut.tableKeys = t.spelledOutKey ++ t.tableKeys := by
  have hkey : t.spelledOutKey.filter (·.rule.isPrimaryKey) = t.spelledOutKey := by
    rw [spelledOutKey_eq, List.filter_eq_self]
    exact fun k hk => isPrimaryKey_of_mem_compositeKey hk
  have hreferences : t.spelledOutReferences.filter (·.rule.isPrimaryKey) = [] := by
    rw [spelledOutReferences_eq, List.filter_eq_nil_iff]
    intro k hk
    rw [isPrimaryKey_of_mem_columnReferences hk]
    exact Bool.false_ne_true
  rw [tableKeys, spelledOut, List.filter_append, List.filter_append, hkey, hreferences,
    List.append_nil, tableKeys]

/-! ## The check -/

theorem columnNames_spelledOut : t.spelledOut.columnNames = t.columnNames := by
  rw [columnNames, spelledOut, List.map_map]
  rfl

theorem emptyFlaw?_spelledOut : t.spelledOut.emptyFlaw? = t.emptyFlaw? := by
  rw [emptyFlaw?, emptyFlaw?, spelledOut, List.isEmpty_map]

theorem nameFlaw?_spelledOut : t.spelledOut.nameFlaw? = t.nameFlaw? := by
  rw [nameFlaw?, nameFlaw?, columnNames_spelledOut]
  rfl

/-- **The key is declared once** in both spellings or in neither. -/
theorem keyFlaw?_spelledOut : t.spelledOut.keyFlaw? = t.keyFlaw? := by
  have hsame : (1 < t.spelledOut.tableKeys.length
        ∨ 0 < t.spelledOut.tableKeys.length ∧ 0 < t.spelledOut.keyColumns.length)
      ↔ (1 < t.tableKeys.length ∨ 0 < t.tableKeys.length ∧ 0 < t.keyColumns.length) := by
    rw [tableKeys_spelledOut, keyColumns_spelledOut, spelledOutKey, List.length_append]
    cases hkeep : t.keepsFlag with
    | true => rw [if_pos rfl, if_pos rfl, List.length_nil, Nat.zero_add, List.length_map]
    | false =>
      -- One more declared key and no flag, where there were at least two flags.
      have hseveral := keepsFlag_eq_false_iff.mp hkeep
      rw [if_neg Bool.false_ne_true, if_neg Bool.false_ne_true, List.length_singleton,
        List.length_nil]
      omega
  simp only [List.length_pos_iff] at hsame
  simp only [keyFlaw?, hsame]
  rfl

/-- A flagged column is one that the key of the flagged columns lists. Names tell columns apart. -/
theorem mem_keyColumnNames_iff (hnames : t.columnNames.Nodup) {c : Column} (hc : c ∈ t.columns) :
    c.name ∈ (t.columns.filter (·.primaryKey)).map (·.name) ↔ c.primaryKey = true := by
  constructor
  · intro hmem
    obtain ⟨c', hc', hname⟩ := List.mem_map.mp hmem
    obtain ⟨hc'mem, hflag⟩ := List.mem_filter.mp hc'
    rw [← List.inj_on_of_nodup_map hnames hc'mem hc hname]
    exact hflag
  · intro hflag
    exact List.mem_map.mpr ⟨c, List.mem_filter.mpr ⟨hc, hflag⟩, rfl⟩

theorem isKeyed_spelledOut (hnames : t.columnNames.Nodup) {c : Column} (hc : c ∈ t.columns) :
    t.spelledOut.isKeyed (c.withoutShorthands t.keepsFlag) = t.isKeyed c := by
  rw [isKeyed, isKeyed, tableKeys_spelledOut, spelledOutKey, List.any_append]
  cases t.keepsFlag with
  | true => rfl
  | false =>
    -- The flag is gone, and the declared key lists the column instead.
    have hlisted : ((t.columns.filter (·.primaryKey)).map (·.name)).contains c.name
        = c.primaryKey := by
      rw [Bool.eq_iff_iff, List.contains_iff_mem]
      exact mem_keyColumnNames_iff hnames hc
    have hcolumns : ∀ names : List String,
        Constraint.columns { rule := .primaryKey names } = names := fun _ => rfl
    rw [if_neg Bool.false_ne_true, List.any_cons, List.any_nil, Bool.or_false, hcolumns,
      Column.withoutShorthands, hlisted, Bool.false_and, Bool.false_or]

/-- A column is the sole key neither by two flags nor by none. -/
theorem notSoleKey_spelledOut (c : Column) :
    (!(c.withoutShorthands t.keepsFlag).primaryKey
        || decide (1 < t.spelledOut.keyColumns.length))
      = (!c.primaryKey || decide (1 < t.keyColumns.length)) := by
  rw [Column.withoutShorthands, keyColumns_spelledOut]
  cases hkeep : t.keepsFlag with
  | true => rw [if_pos rfl, List.length_map, Bool.true_and]
  | false =>
    have hseveral := keepsFlag_eq_false_iff.mp hkeep
    rw [Bool.false_and, Bool.not_false, Bool.true_or, decide_eq_true hseveral, Bool.or_true]

/-- **The auto-increment column** is refused for the same reason in both spellings, or not at
all. -/
theorem autoincrementFlaw?_spelledOut (hnames : t.columnNames.Nodup) :
    t.spelledOut.autoincrementFlaw? d = t.autoincrementFlaw? d := by
  have hcolumns : t.spelledOut.autoincrementColumns
      = t.autoincrementColumns.map (·.withoutShorthands t.keepsFlag) := by
    rw [autoincrementColumns, spelledOut, List.filter_map]
    rfl
  rw [autoincrementFlaw?, autoincrementFlaw?, hcolumns]
  rcases hc : t.autoincrementColumns with _ | ⟨c, _ | ⟨c', rest⟩⟩
  · rfl
  · have hmem : c ∈ t.columns := (mem_columns_of_autoincrementColumns hc).1
    show t.spelledOut.autoincrementColumnFlaw? d (c.withoutShorthands t.keepsFlag)
      = t.autoincrementColumnFlaw? d c
    rw [autoincrementColumnFlaw?, autoincrementColumnFlaw?, isKeyed_spelledOut hnames hmem,
      notSoleKey_spelledOut]
    rfl
  · rfl

/-- What is declared for a column lists this column, and so has no fault. -/
theorem constraintFlaw?_of_mem_spelledOut {k : Constraint}
    (hk : k ∈ t.spelledOutKey ++ t.spelledOutReferences) : t.constraintFlaw? k = none := by
  rw [constraintFlaw?_eq_none_iff]
  rcases List.mem_append.mp hk with hk | hk
  · rw [spelledOutKey] at hk
    cases hkeep : t.keepsFlag with
    | true =>
      rw [hkeep] at hk
      cases hk
    | false =>
      have hseveral := keepsFlag_eq_false_iff.mp hkeep
      rw [hkeep, if_neg Bool.false_ne_true, List.mem_singleton] at hk
      subst hk
      refine ⟨fun _ => ⟨?_, ?_⟩, fun key hrule => nomatch hrule⟩
      · have hne : t.keyColumns ≠ [] := List.ne_nil_of_length_pos (by omega)
        exact fun hnil => hne (List.map_eq_nil_iff.mp hnil)
      · intro name hname
        obtain ⟨c, hc, rfl⟩ := List.mem_map.mp hname
        exact List.mem_map.mpr ⟨c, (List.mem_filter.mp hc).1, rfl⟩
  · obtain ⟨c, hc, hreference⟩ := List.mem_filterMap.mp hk
    obtain ⟨r, -, rfl⟩ := Option.map_eq_some_iff.mp hreference
    refine ⟨fun _ => ⟨List.cons_ne_nil _ _, ?_⟩, ?_⟩
    · intro name hname
      obtain rfl : name = c.name := List.mem_singleton.mp hname
      exact List.mem_map.mpr ⟨c, hc, rfl⟩
    · intro key hrule
      cases hrule
      exact List.cons_ne_nil _ _

theorem indexFlaw?_of_mem_spelledOut {i : Index} (hi : i ∈ t.spelledOutIndexes) :
    t.indexFlaw? i = none := by
  obtain ⟨c, hc, rfl⟩ := List.mem_map.mp hi
  rw [indexFlaw?_eq_none_iff]
  refine ⟨List.cons_ne_nil _ _, ?_⟩
  intro name hname
  obtain rfl : name = c.name := List.mem_singleton.mp hname
  exact List.mem_map.mpr ⟨c, (List.mem_filter.mp hc).1, rfl⟩

/-- **The column lists** in front are sound, so the first fault is one of the table's own. -/
theorem columnListFlaw?_spelledOut : t.spelledOut.columnListFlaw? = t.columnListFlaw? := by
  -- Either table knows the same columns.
  have hconstraint : t.spelledOut.constraintFlaw? = t.constraintFlaw? := by
    funext k
    rw [constraintFlaw?, constraintFlaw?, unknownColumnFlaw?, unknownColumnFlaw?,
      columnNames_spelledOut]
    rfl
  have hindex : t.spelledOut.indexFlaw? = t.indexFlaw? := by
    funext i
    rw [indexFlaw?, indexFlaw?, unknownColumnFlaw?, unknownColumnFlaw?, columnNames_spelledOut]
    rfl
  have hconstraints : (t.spelledOutKey ++ t.spelledOutReferences).findSome? t.constraintFlaw?
      = none := List.findSome?_eq_none_iff.mpr fun k hk => constraintFlaw?_of_mem_spelledOut hk
  have hindexes : t.spelledOutIndexes.findSome? t.indexFlaw? = none :=
    List.findSome?_eq_none_iff.mpr fun i hi => indexFlaw?_of_mem_spelledOut hi
  rw [columnListFlaw?, columnListFlaw?, hconstraint, hindex, spelledOut,
    List.findSome?_append, hconstraints, List.findSome?_append, hindexes, Option.none_or,
    Option.none_or]

/-- **Both spellings break the same rule first**, or none. The rule about auto-increment is compared
where no two columns share a name, for otherwise an earlier one is broken. -/
theorem flaw?_spelledOut : t.spelledOut.flaw? d = t.flaw? d := by
  rw [flaw?, flaw?, emptyFlaw?_spelledOut, nameFlaw?_spelledOut, keyFlaw?_spelledOut,
    columnListFlaw?_spelledOut]
  rcases hname : t.nameFlaw? with _ | e
  · rw [autoincrementFlaw?_spelledOut (nameFlaw?_eq_none_iff.mp hname)]
  · -- Two columns share a name, and no later rule is asked.
    rw [Option.some_or]
    rfl

/-! ## The statements -/

theorem inlineKey_spelledOut (c : Column) :
    (t.spelledOut.hasInlineKey && (c.withoutShorthands t.keepsFlag).primaryKey)
      = (t.hasInlineKey && c.primaryKey) := by
  rw [hasInlineKey, hasInlineKey, Column.withoutShorthands, keyColumns_spelledOut]
  cases hkeep : t.keepsFlag with
  | true => rw [if_pos rfl, List.length_map, Bool.true_and]
  | false =>
    have hseveral : (t.keyColumns.length == 1) = false := by
      have := keepsFlag_eq_false_iff.mp hkeep
      rw [beq_eq_false_iff_ne]
      omega
    rw [hseveral, Bool.false_and, Bool.and_false]

/-- What was left to the table is declared by it, and by nothing else. -/
theorem constraints_spelledOut :
    t.spelledOut.compositeKey ++ t.spelledOut.columnReferences ++ t.spelledOut.constraints
      = t.compositeKey ++ t.columnReferences ++ t.constraints := by
  have hkey : t.spelledOut.compositeKey = [] := by
    have hfew : ¬1 < t.spelledOut.keyColumns.length := by
      rw [keyColumns_spelledOut]
      cases hkeep : t.keepsFlag with
      | true =>
        have := keepsFlag_iff.mp hkeep
        rw [if_pos rfl, List.length_map]
        omega
      | false =>
        rw [if_neg Bool.false_ne_true, List.length_nil]
        omega
    rw [compositeKey, if_neg hfew]
  have hreferences : t.spelledOut.columnReferences = [] := by
    rw [columnReferences, List.filterMap_eq_nil_iff]
    intro c hc
    obtain ⟨c, -, rfl⟩ := List.mem_map.mp hc
    rfl
  rw [hkey, hreferences, List.nil_append, List.nil_append, spelledOut, spelledOutKey_eq,
    spelledOutReferences_eq]

/-- **The same elements** are written, each in the same text. -/
theorem map_sql_elements_spelledOut :
    t.spelledOut.elements.map (·.sql d) = t.elements.map (·.sql d) := by
  have hcolumns : (t.spelledOut.columns.map fun c =>
        Element.sql d (.column c (t.spelledOut.hasInlineKey && c.primaryKey)))
      = t.columns.map fun c => Element.sql d (.column c (t.hasInlineKey && c.primaryKey)) := by
    rw [spelledOut, List.map_map]
    apply List.map_congr_left
    intro c _
    show d.columnText (c.withoutShorthands t.keepsFlag)
        (t.spelledOut.hasInlineKey && (c.withoutShorthands t.keepsFlag).primaryKey)
      = d.columnText c (t.hasInlineKey && c.primaryKey)
    rw [inlineKey_spelledOut, Dialect.columnText_withoutShorthands]
  simp only [elements, constraints_spelledOut, List.map_append, List.map_map,
    Function.comp_def, hcolumns]

theorem allIndexes_spelledOut : t.spelledOut.allIndexes = t.allIndexes := by
  have hflagged : t.spelledOut.columns.filter (·.index) = [] := by
    rw [List.filter_eq_nil_iff]
    intro c hc
    obtain ⟨c, -, rfl⟩ := List.mem_map.mp hc
    exact Bool.false_ne_true
  rw [allIndexes, hflagged, List.map_nil, List.nil_append]
  rfl

theorem statements_spelledOut : t.spelledOut.statements d = t.statements d := by
  rw [statements, statements, createStatement, createStatement, map_sql_elements_spelledOut,
    indexStatements, indexStatements, allIndexes_spelledOut]
  rfl

/-- **Shorthands of columns and declarations of the table agree.** Spelling out the keys, references
and indexes of columns changes neither the script of a table nor the error that it has instead. -/
theorem spelled_out_script (d : Dialect) (t : Table) : t.spelledOut.script d = t.script d := by
  rw [script, script, flaw?_spelledOut, statements_spelledOut]

/-- Two flagged columns, of which one refers to another table and has an index. -/
example :
    ({ name := "t"
       columns :=
         [{ name := "a", type := .integer, nullable := false, primaryKey := true },
          { name := "b", type := .text, primaryKey := true, index := true
            references := some { table := "u", column := "c", onDelete := some .cascade } }]
       constraints := [{ rule := .check "a > 0" }] } : Table).spelledOut
      = { name := "t"
          columns := [{ name := "a", type := .integer, nullable := false },
            { name := "b", type := .text }]
          constraints :=
            [{ rule := .primaryKey ["a", "b"] },
             { rule := .foreignKey
                 { columns := ["b"], table := "u", references := ["c"]
                   onDelete := some .cascade } },
             { rule := .check "a > 0" }]
          indexes := [{ name := "t_b_index", columns := ["b"], unique := false }] } := by
  decide

end Table

end SchemaSql
