/-
The script of a table holds the statements of the table.

A table is written by one CREATE TABLE statement and one CREATE INDEX statement for each
index, and every text of the caller goes into them as it is. The script encodes them, so
what comes out of it again are their normal forms (`SchemaSql.Proofs.Script.RoundTrip`).
Here nothing is lost by that: every one of these statements begins with its keyword and
ends in a closing parenthesis and the terminator, so that it is in normal form already
(`normalForm?_of_create`), whatever stands in between.

The file also says what writing a table and creating it can do: both succeed exactly
where the table breaks no rule (`script_eq_ok_iff`, `create_eq_ok_iff`), and what they
yield is determined by the table and the dialect.
-/
import SchemaSql.Changeset
import SchemaSql.Proofs.Script.RoundTrip

set_option autoImplicit false

namespace SchemaSql

/-! ## Statements in normal form -/

/-- A statement from its keyword to the parenthesis before its terminator is in normal form. -/
theorem normalForm?_of_create {s : String} (inner : String) (h : s = "CREATE " ++ inner ++ ");") :
    Script.normalForm? s = some s := by
  have hlist : s.toList = 'C' :: ("REATE ".toList ++ inner.toList) ++ [')'] ++ [';'] := by
    rw [h, String.toList_append, String.toList_append, List.append_assoc _ [')'] [';']]
    rfl
  exact Script.normalForm?_eq_self hlist (by decide) (by decide)

namespace Table

theorem normalForm?_createStatement (d : Dialect) (t : Table) :
    Script.normalForm? (t.createStatement d) = some (t.createStatement d) := by
  apply normalForm?_of_create ("TABLE " ++ (if t.ifNotExists then "IF NOT EXISTS " else "")
    ++ t.name ++ " (" ++ listed (t.elements.map (·.sql d)))
  rw [createStatement, createHead, show "CREATE TABLE " = "CREATE " ++ "TABLE " from rfl]
  simp only [String.append_assoc]

theorem normalForm?_createIndex (table : String) (i : Index) :
    Script.normalForm? (i.createStatement table) = some (i.createStatement table) := by
  apply normalForm?_of_create ((if i.unique then "UNIQUE " else "") ++ "INDEX " ++ i.name
    ++ " ON " ++ table ++ " (" ++ listed i.columns)
  rw [Index.createStatement]
  simp only [String.append_assoc]

/-- **The statements of a table are in normal form.** -/
theorem normalForm?_of_mem_statements {d : Dialect} {t : Table} {s : String}
    (h : s ∈ t.statements d) : Script.normalForm? s = some s := by
  rw [statements, indexStatements, List.mem_cons, List.mem_map] at h
  rcases h with rfl | ⟨i, -, rfl⟩
  · exact normalForm?_createStatement d t
  · exact normalForm?_createIndex t.name i

/-- The script of a table holds the statements of the table. -/
theorem statements_ofStatements (d : Dialect) (t : Table) :
    Script.statements (Script.ofStatements (t.statements d)) = t.statements d :=
  Script.statements_ofStatements_of_normal fun _ => normalForm?_of_mem_statements

/-! ## What writing and creating can do -/

/-- A table is written exactly where it breaks no rule. -/
theorem script_eq_ok_iff {d : Dialect} {t : Table} {sql : String} :
    t.script d = .ok sql ↔ t.flaw? d = none ∧ sql = Script.ofStatements (t.statements d) := by
  rw [script]
  cases t.flaw? d with
  | none => simp [eq_comm]
  | some e => simp

/-- Where a table is not written, the error is the rule it breaks. -/
theorem script_eq_error_iff {d : Dialect} {t : Table} {e : DefinitionError} :
    t.script d = .error e ↔ t.flaw? d = some e := by
  rw [script]
  cases t.flaw? d with
  | none => simp
  | some e' => simp

end Table

theorem Changeset.create_eq (c : Changeset) (t : Table) :
    c.create t = match t.flaw? c.dialect with
      | some flaw => .error (.definition flaw)
      | none => .ok (c.append (t.statements c.dialect)) := by
  unfold create Table.script
  cases t.flaw? c.dialect with
  | some flaw => rfl
  | none => exact congrArg (fun list => Except.ok (c.append list)) (t.statements_ofStatements _)

/-- **Creating a table** adds its statements, and succeeds exactly where the table breaks no
rule. -/
theorem Changeset.create_eq_ok_iff {c c' : Changeset} {t : Table} :
    c.create t = .ok c' ↔ t.flaw? c.dialect = none ∧ c' = c.append (t.statements c.dialect) := by
  rw [create_eq]
  cases t.flaw? c.dialect with
  | none => simp [eq_comm]
  | some flaw => simp

/-! ## The script and the changeset -/

namespace Table

/-- The statements one by one. -/
theorem statements_eq (d : Dialect) (t : Table) :
    t.statements d
      = t.createStatement d
        :: ((t.columns.filter (·.index)).map fun column =>
              (Index.forTable t.name [column.name] false).createStatement t.name)
        ++ t.indexes.map (·.createStatement t.name) := by
  rw [statements, indexStatements, allIndexes, List.map_append, List.map_map, List.cons_append]
  rfl

theorem length_statements (d : Dialect) (t : Table) :
    (t.statements d).length = 1 + t.columns.countP (·.index) + t.indexes.length := by
  rw [statements_eq, List.length_append, List.length_cons, List.length_map, List.length_map,
    List.countP_eq_length_filter]
  omega

/-- **Reading the script of a table** gives its statements character for character: the CREATE TABLE
statement, then an index for each column that asks for one, then the declared indexes. In a
changeset in which the table is created these come behind the statements that are there, and
nothing else changes. -/
theorem script_holds_statements {d : Dialect} {t : Table} {sql : String}
    (h : t.script d = .ok sql) :
    Script.statements sql
        = t.createStatement d
          :: ((t.columns.filter (·.index)).map fun column =>
                (Index.forTable t.name [column.name] false).createStatement t.name)
          ++ t.indexes.map (·.createStatement t.name)
      ∧ (Script.statements sql).length = 1 + t.columns.countP (·.index) + t.indexes.length
      ∧ ∀ c : Changeset, c.dialect = d → ∃ c', c.create t = .ok c'
          ∧ c'.statements = c.statements ++ Script.statements sql
          ∧ c'.dialect = c.dialect ∧ c'.capabilities = c.capabilities := by
  obtain ⟨hflaw, rfl⟩ := script_eq_ok_iff.mp h
  rw [statements_ofStatements]
  refine ⟨statements_eq d t, length_statements d t, ?_⟩
  rintro c rfl
  exact ⟨_, Changeset.create_eq_ok_iff.mpr ⟨hflaw, rfl⟩, rfl, rfl, rfl⟩

/-- A table with semicolons and backslashes in its texts. -/
def awkward : Table where
  name := "a;b"
  columns :=
    [{ name := "kind", type := .custom "ENUM('x\\;y')", nullable := false },
     { name := "note\\", type := .text, default := some (.string ";\n\\;"), index := true }]
  constraints := [{ rule := .check "kind <> ';'" }]
  indexes := [{ name := "by;kind", columns := ["kind"], unique := true }]

theorem awkward_script_holds_statements :
    let list :=
      ["CREATE TABLE a;b (kind ENUM('x\\;y') NOT NULL, note\\ TEXT DEFAULT ';\n\\;', "
          ++ "CHECK (kind <> ';'));",
       "CREATE INDEX a;b_note\\_index ON a;b (note\\);",
       "CREATE UNIQUE INDEX by;kind ON a;b (kind);"]
    let earlier : Changeset := { Changeset.new .mysql with statements := ["SET @a = ';';"] }
    awkward.script .mysql = .ok (Script.ofStatements (awkward.statements .mysql))
      ∧ Script.statements (Script.ofStatements (awkward.statements .mysql)) = list
      ∧ ∃ c', earlier.create awkward = .ok c' ∧ c'.statements = "SET @a = ';';" :: list := by
  intro list earlier
  have h : awkward.script .mysql = .ok (Script.ofStatements (awkward.statements .mysql)) :=
    script_eq_ok_iff.mpr ⟨by decide +kernel, rfl⟩
  obtain ⟨hlist, -, hcreate⟩ := script_holds_statements h
  have hread : Script.statements (Script.ofStatements (awkward.statements .mysql)) = list :=
    hlist.trans (by decide +kernel)
  obtain ⟨c', hok, hstatements, -⟩ := hcreate earlier rfl
  exact ⟨h, hread, c', hok, hstatements.trans (congrArg (earlier.statements ++ ·) hread)⟩

end Table

end SchemaSql
