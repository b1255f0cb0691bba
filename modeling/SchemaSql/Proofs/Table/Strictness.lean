/-
What the choice of the dialect does to a table.

The dialects agree on nearly every rule. Where they do not, the rule is about the column that
numbers the rows: Postgres asks nothing of it, MySQL wants it in the primary key, and SQLite
wants it to be the primary key. Each of these contains the one before it, so the dialects
are a chain in what they accept (`IsSound.relax`). A table without such a column does not
meet these rules at all, and then the dialects agree down to the error
(`flaw?_eq_of_no_autoincrement`).

Once a table is accepted, what is written for it depends on the dialect in one place. Types,
defaults and the numbering of rows are all inside the definition of a column. The head of the
statement, the keys and the constraints are written without asking for the dialect
(`createStatement_eq`), and so are the indexes.
-/
import SchemaSql.Proofs.Table.Verdict

set_option autoImplicit false

namespace SchemaSql.Table

variable {d d' : Dialect} {t : Table}

/-! ## What is accepted -/

/-- **A dialect that asks for less accepts more.** All that a dialect can ask for is a key. -/
theorem IsSound.relax (h : t.IsSound d)
    (hkeyed : d' = .mysql ∨ d' = .sqlite → d = .mysql ∨ d = .sqlite)
    (hsole : d' = .sqlite → d = .sqlite) : t.IsSound d' where
  hasColumn := h.hasColumn
  distinctNames := h.distinctNames
  oneDeclaredKey := h.oneDeclaredKey
  oneKindOfKey := h.oneKindOfKey
  oneAutoincrement := h.oneAutoincrement
  autoincrementType := h.autoincrementType
  autoincrementDefault := h.autoincrementDefault
  autoincrementKeyed c hc hauto hd := h.autoincrementKeyed c hc hauto (hkeyed hd)
  autoincrementSoleKey c hc hauto hd := h.autoincrementSoleKey c hc hauto (hsole hd)
  constraintColumns := h.constraintColumns
  foreignKeyReferences := h.foreignKeyReferences
  indexColumns := h.indexColumns

theorem IsSound.mysql_of_sqlite (h : t.IsSound .sqlite) : t.IsSound .mysql := by
  apply h.relax
  · exact fun _ => .inr rfl
  · intro hd
    cases hd

theorem IsSound.postgres_of_mysql (h : t.IsSound .mysql) : t.IsSound .postgres := by
  apply h.relax
  · rintro (hd | hd) <;> cases hd
  · intro hd
    cases hd

/-- **Without a column that numbers the rows** the dialects agree. -/
theorem flaw?_eq_of_no_autoincrement (h : ∀ c ∈ t.columns, c.autoincrement = false)
    (d d' : Dialect) : t.flaw? d = t.flaw? d' := by
  have hnone : t.autoincrementColumns = [] := by
    unfold autoincrementColumns
    rw [List.filter_eq_nil_iff]
    intro c hc
    rw [h c hc]
    decide
  have hflaw : ∀ d, t.autoincrementFlaw? d = none := by
    intro d
    unfold autoincrementFlaw?
    rw [hnone]
  unfold flaw?
  rw [hflaw d, hflaw d']

/-! ## What is written -/

/-- The definitions of the columns. -/
def columnTexts (d : Dialect) (t : Table) : List String :=
  t.columns.map fun c => d.columnText c (t.hasInlineKey && c.primaryKey)

/-- The texts of all other elements. -/
def constraintTexts (t : Table) : List String :=
  (t.compositeKey ++ t.columnReferences ++ t.constraints).map (·.sql)

/-- **Only the columns are written for a dialect.** -/
theorem createStatement_eq (d : Dialect) (t : Table) :
    t.createStatement d
      = t.createHead ++ listed (t.columnTexts d ++ t.constraintTexts) ++ ");" := by
  unfold createStatement elements columnTexts constraintTexts
  rw [List.map_append, List.map_map, List.map_map]
  rfl

/-- **The dialects are a chain.** What SQLite accepts is accepted by MySQL, and what MySQL accepts
by Postgres. A table without a column that numbers the rows is judged alike by all, and refused
with the same error. Where two dialects accept a table, creating it adds the same indexes for both,
and before them a statement in which only the definitions of the columns differ. -/
theorem dialects_are_a_chain (t : Table) :
    ((∃ sql, t.script .sqlite = .ok sql) → ∃ sql, t.script .mysql = .ok sql)
      ∧ ((∃ sql, t.script .mysql = .ok sql) → ∃ sql, t.script .postgres = .ok sql)
      ∧ ((∀ c ∈ t.columns, c.autoincrement = false) → ∀ d d',
          ((∃ sql, t.script d = .ok sql) ↔ ∃ sql, t.script d' = .ok sql)
            ∧ ∀ e, t.script d = .error e ↔ t.script d' = .error e)
      ∧ ∀ c c' : Changeset, (∃ sql, t.script c.dialect = .ok sql) →
          (∃ sql, t.script c'.dialect = .ok sql) →
          ∃ first first' rest,
            c.create t = .ok { c with statements := c.statements ++ first :: rest }
              ∧ c'.create t = .ok { c' with statements := c'.statements ++ first' :: rest }
              ∧ first = t.createHead ++
                  listed (t.columnTexts c.dialect ++ t.constraintTexts) ++ ");"
              ∧ first' = t.createHead ++
                  listed (t.columnTexts c'.dialect ++ t.constraintTexts) ++ ");" := by
  simp only [exists_script_iff]
  refine ⟨IsSound.mysql_of_sqlite, IsSound.postgres_of_mysql, ?_, ?_⟩
  · intro hnone d d'
    have hflaw := flaw?_eq_of_no_autoincrement hnone d d'
    refine ⟨?_, ?_⟩
    · rw [← flaw?_eq_none_iff, ← flaw?_eq_none_iff, hflaw]
    · intro e
      rw [script_eq_error_iff, script_eq_error_iff, hflaw]
  · intro c c' hc hc'
    have hcreate : c.create t
        = .ok { c with statements := c.statements ++ t.statements c.dialect } :=
      Changeset.create_eq_ok_iff.mpr ⟨flaw?_eq_none_iff.mpr hc, rfl⟩
    have hcreate' : c'.create t
        = .ok { c' with statements := c'.statements ++ t.statements c'.dialect } :=
      Changeset.create_eq_ok_iff.mpr ⟨flaw?_eq_none_iff.mpr hc', rfl⟩
    exact ⟨_, _, t.indexStatements, hcreate, hcreate', createStatement_eq _ t,
      createStatement_eq _ t⟩

/-- SQLite numbers the rows of this table, so all three do, each in its own words. -/
theorem numbered_tickets_for_sqlite_and_postgres :
    let tickets : Table :=
      { name := "tickets"
        columns := [((Column.bare "id" .integer).modify .primaryKey).modify .autoincrement,
          .bare "seat" .text]
        constraints := [{ rule := .unique ["seat"] }]
        indexes := [{ name := "by_seat", columns := ["seat"], unique := false }] }
    let sqlite := Changeset.new .sqlite
    let postgres := Changeset.new .postgres
    (∃ sql, tickets.script .mysql = .ok sql)
      ∧ ∃ first first' rest,
          sqlite.create tickets = .ok { sqlite with statements := first :: rest }
            ∧ postgres.create tickets = .ok { postgres with statements := first' :: rest }
            ∧ first ≠ first' := by
  intro tickets sqlite postgres
  have hsqlite : ∃ sql, tickets.script .sqlite = .ok sql :=
    exists_script_iff.mpr (flaw?_eq_none_iff.mp (by decide))
  obtain ⟨hmysql, hpostgres, -, hcreate⟩ := dialects_are_a_chain tickets
  obtain ⟨first, first', rest, hfirst, hfirst', htext, htext'⟩ :=
    hcreate sqlite postgres hsqlite (hpostgres (hmysql hsqlite))
  refine ⟨hmysql hsqlite, first, first', rest, hfirst, hfirst', ?_⟩
  rw [htext, htext']
  decide +kernel

/-- The chain is strict. Rows can be numbered outside of the key, and in a key that the table
declares. -/
example :
    let outside : Table :=
      { name := "t", columns := [(Column.bare "n" .integer).modify .autoincrement] }
    let declared : Table := { outside with constraints := [{ rule := .primaryKey ["n"] }] }
    outside.flaw? .postgres = none
      ∧ outside.flaw? .mysql = some (.autoincrementNoKey "t" "n" .mysql)
      ∧ declared.flaw? .mysql = none
      ∧ declared.flaw? .sqlite = some (.autoincrementNotSoleKey "t" "n" .sqlite) := by decide

end SchemaSql.Table
