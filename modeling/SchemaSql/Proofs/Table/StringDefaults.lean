/-
String literals where they stand.

A string literal is read back as the text that it was written for, if no quote follows it
(`SchemaSql.Proofs.Sql.StringLiteral`). The writer of the literal cannot see to that. What
follows is written elsewhere, by the clauses of the column that come after its default, by
the elements that come after the column, or by the end of the statement. Each of these
begins with a blank, a comma or a parenthesis, and only the last is never missing
(`endsToken_afterLiteral`).

So a default may be any text. It ends where its literal ends, and what stands before and
behind the literal is the same for every text. The same is true of the name in the query for
a table.
-/
import SchemaSql.Proofs.Sql.StringLiteral
import SchemaSql.Proofs.Table.Verdict

set_option autoImplicit false

namespace SchemaSql

open SchemaSql.Text

/-! ## Texts that end what stands before them -/

/-- **Whether a text ends the word or the literal before it**: it begins with a blank, a comma or a
closing parenthesis. -/
def EndsToken (s : String) : Prop := s.toList.head? ∈ [some ' ', some ',', some ')']

instance (s : String) : Decidable (EndsToken s) :=
  inferInstanceAs (Decidable (s.toList.head? ∈ [some ' ', some ',', some ')']))

theorem not_startsWithQuote_of_endsToken {s : String} (h : EndsToken s) : ¬StartsWithQuote s := by
  intro hquote
  rw [StartsWithQuote] at hquote
  rw [EndsToken, hquote] at h
  exact absurd h (by decide)

theorem endsToken_append {s t : String} (hs : s = "" ∨ EndsToken s) (ht : EndsToken t) :
    EndsToken (s ++ t) := by
  rcases hs with rfl | hs
  · rwa [String.empty_append]
  · rw [EndsToken, String.toList_append]
    rw [EndsToken] at hs
    rcases hlist : s.toList with _ | ⟨c, rest⟩
    · rw [hlist] at hs
      exact absurd hs (by decide)
    · rwa [hlist] at hs

/-- A clause may be left out. -/
theorem endsToken_clause (p : Bool) {clause : String} (h : clause = "" ∨ EndsToken clause) :
    (if p then clause else "") = "" ∨ EndsToken (if p then clause else "") := by
  cases p with
  | false => exact .inl rfl
  | true => exact h

/-! ## The text around a default -/

/-- What is written of a column before the value of its default. -/
def Dialect.beforeDefault (d : Dialect) (c : Column) (inlineKey : Bool) : String :=
  c.name ++ " " ++ d.columnType c ++ (if !c.nullable && !inlineKey then " NOT NULL" else "")
    ++ " DEFAULT "

/-- What is written of a column behind the value of its default. -/
def Dialect.afterDefault (d : Dialect) (c : Column) (inlineKey : Bool) : String :=
  (if c.autoincrement then d.autoincrementKeyword else "")
    ++ (if c.unique && !inlineKey then " UNIQUE" else "")
    ++ (if inlineKey then " PRIMARY KEY" else "")

/-- The text of a column with a default, for every flag of the column. Only on SQLite an
auto-increment column has a text without a default. -/
theorem Dialect.columnText_of_default {d : Dialect} {c : Column} {v : DefaultValue}
    (hdefault : c.default = some v) (hstandard : d = .sqlite → c.autoincrement = false)
    (inlineKey : Bool) :
    d.columnText c inlineKey
      = d.beforeDefault c inlineKey ++ d.defaultText v ++ d.afterDefault c inlineKey := by
  have htext : d.columnText c inlineKey = d.standardColumnText c inlineKey := by
    cases d with
    | sqlite => rw [columnText, hstandard rfl, if_neg Bool.false_ne_true]
    | _ => rfl
  rw [htext, standardColumnText, columnClauses, hdefault, beforeDefault, afterDefault]
  simp only [String.join_cons, String.join_nil, String.append_empty, String.append_assoc]

/-! ## The text around an element -/

/-- A listed text with what is listed before it and behind it. -/
theorem listed_append_cons (before : List String) (s : String) (after : List String) :
    listed (before ++ s :: after)
      = String.join (before.map (· ++ ", ")) ++ s ++ String.join (after.map (", " ++ ·)) := by
  have hbehind : ∀ (after : List String) (s : String),
      listed (s :: after) = s ++ String.join (after.map (", " ++ ·)) := by
    intro after
    induction after with
    | nil =>
      intro s
      rw [listed, String.intercalate_singleton, List.map_nil, String.join_nil, String.append_empty]
    | cons next after ih =>
      intro s
      rw [listed, String.intercalate_cons_cons, ← listed, ih, List.map_cons, String.join_cons]
      simp only [String.append_assoc]
  induction before with
  | nil => rw [List.nil_append, hbehind, List.map_nil, String.join_nil, String.empty_append]
  | cons first before ih =>
    have hrest : before ++ s :: after ≠ [] := by simp
    rw [List.cons_append, listed, String.intercalate_cons_of_ne_nil hrest, ← listed, ih,
      List.map_cons, String.join_cons]
    simp only [String.append_assoc]

namespace Table

/-- What a CREATE TABLE statement says before the default of the column behind `earlier`. -/
def beforeLiteral (d : Dialect) (t : Table) (earlier : List Element) (c : Column)
    (inlineKey : Bool) : String :=
  t.createHead ++ String.join (earlier.map fun e => e.sql d ++ ", ")
    ++ d.beforeDefault c inlineKey

/-- What a CREATE TABLE statement says behind the default of the column before `later`. -/
def afterLiteral (d : Dialect) (c : Column) (inlineKey : Bool) (later : List Element) : String :=
  d.afterDefault c inlineKey ++ String.join (later.map fun e => ", " ++ e.sql d) ++ ");"

/-- **What follows a default ends it**, whatever the column says and wherever it stands. -/
theorem endsToken_afterLiteral (d : Dialect) (c : Column) (inlineKey : Bool)
    (later : List Element) : EndsToken (afterLiteral d c inlineKey later) := by
  have hkeyword : d.autoincrementKeyword = "" ∨ EndsToken d.autoincrementKeyword := by
    cases d <;> decide
  have hunique : EndsToken " UNIQUE" := by decide
  have hkey : EndsToken " PRIMARY KEY" := by decide
  have hlater : String.join (later.map fun e => ", " ++ e.sql d) = ""
      ∨ EndsToken (String.join (later.map fun e => ", " ++ e.sql d)) := by
    cases later with
    | nil => exact .inl rfl
    | cons e later =>
      right
      rw [List.map_cons, String.join_cons, String.append_assoc, EndsToken, String.toList_append]
      exact List.mem_cons_of_mem _ List.mem_cons_self
  have hend : EndsToken ");" := by decide
  rw [afterLiteral, Dialect.afterDefault]
  simp only [String.append_assoc]
  exact endsToken_append (endsToken_clause _ hkeyword)
    (endsToken_append (endsToken_clause _ (.inr hunique))
      (endsToken_append (endsToken_clause _ (.inr hkey)) (endsToken_append hlater hend)))

theorem not_startsWithQuote_afterLiteral (d : Dialect) (c : Column) (inlineKey : Bool)
    (later : List Element) : ¬StartsWithQuote (afterLiteral d c inlineKey later) :=
  not_startsWithQuote_of_endsToken (endsToken_afterLiteral d c inlineKey later)

/-- The statement around the default of one of its columns. -/
theorem createStatement_of_default {d : Dialect} {t : Table} {earlier later : List Element}
    {c : Column} {inlineKey : Bool} {v : DefaultValue}
    (helements : t.elements = earlier ++ .column c inlineKey :: later)
    (hdefault : c.default = some v) (hstandard : d = .sqlite → c.autoincrement = false) :
    t.createStatement d
      = t.beforeLiteral d earlier c inlineKey ++ d.defaultText v
        ++ afterLiteral d c inlineKey later := by
  rw [createStatement, helements, List.map_append, List.map_cons, listed_append_cons,
    Element.sql, Dialect.columnText_of_default hdefault hstandard, List.map_map, List.map_map,
    beforeLiteral, afterLiteral]
  simp only [String.append_assoc]
  rfl

/-- A column that stands among the elements is a column of the table. -/
theorem mem_columns_of_mem_elements {t : Table} {c : Column} {inlineKey : Bool}
    (h : .column c inlineKey ∈ t.elements) : c ∈ t.columns := by
  rw [elements, List.mem_append, List.mem_map, List.mem_map] at h
  rcases h with ⟨c', hc', heq⟩ | ⟨k, -, heq⟩
  · cases heq
    exact hc'
  · cases heq

/-- A column with a default does not number the rows of an accepted table. -/
theorem autoincrement_of_default {d : Dialect} {t : Table} {c : Column} {v : DefaultValue}
    (hflaw : t.flaw? d = none) (hc : c ∈ t.columns) (hdefault : c.default = some v) :
    c.autoincrement = false := by
  refine Bool.eq_false_iff.mpr fun hauto => ?_
  have hnone := (flaw?_eq_none_iff.mp hflaw).autoincrementDefault c hc hauto
  rw [hdefault] at hnone
  cases hnone

/-- **The statements of an accepted table**, around the default of one of its columns. -/
theorem statements_of_default {d : Dialect} {t : Table} {sql : String}
    {earlier later : List Element} {c : Column} {inlineKey : Bool} {v : DefaultValue}
    (hscript : t.script d = .ok sql)
    (helements : t.elements = earlier ++ .column c inlineKey :: later)
    (hdefault : c.default = some v) :
    Script.statements sql
      = (t.beforeLiteral d earlier c inlineKey ++ d.defaultText v
          ++ afterLiteral d c inlineKey later) :: t.indexStatements := by
  obtain ⟨hflaw, rfl⟩ := script_eq_ok_iff.mp hscript
  have hc : c ∈ t.columns := by
    apply mem_columns_of_mem_elements
    rw [helements]
    exact List.mem_append_right _ List.mem_cons_self
  -- Otherwise the column would be written without its default on SQLite.
  have hplain := autoincrement_of_default hflaw hc hdefault
  rw [statements_ofStatements, statements,
    createStatement_of_default helements hdefault fun _ => hplain]

end Table

/-! ## Literals in statements and queries -/

/-- **Every string literal ends where it was written to end**, for a reader that knows of doubled
quotes only. It is read back before every text that does not begin with a quote. Such a text is
what follows the name in the query for a table, and what follows a string default in the statement
of a table. -/
theorem literals_end_where_written (d : Dialect) :
    (∀ s rest, readLiteral? none (sqlLiteral s ++ rest) = some (s, rest) ↔ ¬StartsWithQuote rest)
    ∧ (∃ front back, ¬StartsWithQuote back ∧ ∀ name,
        d.tableQuery name = front ++ sqlLiteral name ++ back
          ∧ readLiteral? none (sqlLiteral name ++ back) = some (name, back))
    ∧ ∀ (t : Table) (sql : String), t.script d = .ok sql →
        ∀ earlier c inlineKey later s, t.elements = earlier ++ .column c inlineKey :: later →
          c.default = some (.string s) →
            Script.statements sql
                = (t.beforeLiteral d earlier c inlineKey ++ sqlLiteral s
                    ++ Table.afterLiteral d c inlineKey later) :: t.indexStatements
              ∧ ¬StartsWithQuote (Table.afterLiteral d c inlineKey later)
              ∧ readLiteral? none (sqlLiteral s ++ Table.afterLiteral d c inlineKey later)
                  = some (s, Table.afterLiteral d c inlineKey later) := by
  have hread : ∀ s rest,
      readLiteral? none (sqlLiteral s ++ rest) = some (s, rest) ↔ ¬StartsWithQuote rest :=
    fun s rest => readLiteral?_sqlLiteral_iff s rest (.inl rfl)
  refine ⟨hread, ?_, ?_⟩
  · have hquery : ∃ front back, ¬StartsWithQuote back ∧ ∀ name,
        d.tableQuery name = front ++ sqlLiteral name ++ back := by
      cases d with
      | postgres => exact ⟨"SELECT to_regclass(", ");", by decide, fun _ => rfl⟩
      | mysql => exact ⟨"show tables like ", ";", by decide, fun _ => rfl⟩
      | sqlite =>
        exact ⟨"SELECT name FROM sqlite_master WHERE type='table' AND name=", ";", by decide,
          fun _ => rfl⟩
    obtain ⟨front, back, hback, htext⟩ := hquery
    exact ⟨front, back, hback, fun name => ⟨htext name, (hread name back).mpr hback⟩⟩
  · intro t sql hscript earlier c inlineKey later s helements hdefault
    have hback := Table.not_startsWithQuote_afterLiteral d c inlineKey later
    refine ⟨?_, hback, (hread s _).mpr hback⟩
    rw [← d.defaultText_string]
    exact Table.statements_of_default hscript helements hdefault

/-- A table whose defaults begin and end in quotes. -/
def quotations : Table where
  name := "quotations"
  columns :=
    [{ name := "mark", type := .char 2, nullable := false, unique := true
       default := some (.string "''") },
     { name := "line", type := .text, primaryKey := true, default := some (.string "'tis', ") }]
  constraints := [{ rule := .check "mark <> ''" }]

theorem quotations_end_where_written :
    quotations.script .sqlite = .ok (Script.ofStatements (quotations.statements .sqlite))
      ∧ Script.statements (Script.ofStatements (quotations.statements .sqlite))
          = ["CREATE TABLE quotations (mark TEXT NOT NULL DEFAULT '''''' UNIQUE, "
              ++ "line TEXT DEFAULT '''tis'', ' PRIMARY KEY, CHECK (mark <> ''));"]
      ∧ readLiteral? none ("'''''' UNIQUE, "
              ++ "line TEXT DEFAULT '''tis'', ' PRIMARY KEY, CHECK (mark <> ''));")
          = some ("''", " UNIQUE, "
              ++ "line TEXT DEFAULT '''tis'', ' PRIMARY KEY, CHECK (mark <> ''));")
      ∧ readLiteral? none "'''tis'', ' PRIMARY KEY, CHECK (mark <> ''));"
          = some ("'tis', ", " PRIMARY KEY, CHECK (mark <> ''));") := by
  have hscript : quotations.script .sqlite
      = .ok (Script.ofStatements (quotations.statements .sqlite)) :=
    Table.script_eq_ok_iff.mpr ⟨by decide +kernel, rfl⟩
  obtain ⟨-, -, hdefaults⟩ := literals_end_where_written .sqlite
  obtain ⟨hstatements, -, hmark⟩ := hdefaults quotations _ hscript [] _ _ _ "''" rfl rfl
  obtain ⟨-, -, hline⟩ := hdefaults quotations _ hscript [_] _ _ _ "'tis', " rfl rfl
  exact ⟨hscript, hstatements, hmark, hline⟩

end SchemaSql
