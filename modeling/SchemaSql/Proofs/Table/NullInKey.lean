/-
NULL in the primary key of SQLite.

A column that is made a primary key is made not NULL along with it. In a statement the two are
said together, by the key alone, when the key is written at the column, since a key excludes
NULL. In SQLite it does not. There a primary key accepts NULL unless NOT NULL is written too,
and the one exception is a column of type INTEGER with the key written at it. So a key of a
single column is safe in that type and in no other (`refusesNull_iff`).

The key of several columns is written apart from them, and each column keeps its NOT NULL. There
it matters what the modifiers of the column say about NULL in the end, and a column that is
made nullable after it was made a key is written without.

Both are read off the text of the column with the texts of the caller covered
(`Element.HasPhrase`). That NOT NULL is not found where it was not written is shown for its
first word (`Dialect.columnsLack_notWord`), which no other clause has.
-/
import SchemaSql.Proofs.Column.Modifiers
import SchemaSql.Proofs.Table.Autoincrement
import SchemaSql.Proofs.Table.Interleaving
import SchemaSql.Proofs.Table.PrimaryKey

set_option autoImplicit false

namespace SchemaSql

/-! ## Phrases in an element -/

/-- A phrase is not found more often than a phrase that it begins with. -/
theorem occurrences_le_of_prefix {phrase start : List Char} (h : start <+: phrase)
    (s : List Char) : occurrences phrase s ≤ occurrences start s := by
  induction s with
  | nil => exact Nat.le_refl 0
  | cons c rest ih =>
    rw [occurrences, occurrences]
    by_cases hfirst : phrase <+: c :: rest
    · rw [if_pos hfirst, if_pos (h.trans hfirst)]
      exact Nat.add_le_add_left ih 1
    · rw [if_neg hfirst, Nat.zero_add]
      exact Nat.le_add_left_of_le ih

/-- **Whether this library writes a phrase in an element.** The caller's texts are covered. -/
def Element.HasPhrase (d : Dialect) (e : Element) (phrase : String) : Prop :=
  0 < occurrences phrase.toList (Fragment.skeleton (e.fragments d))

instance (d : Dialect) (e : Element) (phrase : String) : Decidable (e.HasPhrase d phrase) :=
  inferInstanceAs (Decidable (0 < occurrences phrase.toList (Fragment.skeleton (e.fragments d))))

/-- **Whether SQLite keeps NULL out of a column**, by what is written for the column. -/
def Column.RefusesNull (c : Column) (inlineKey : Bool) : Prop :=
  (Element.column c inlineKey).HasPhrase .sqlite "NOT NULL"
    ∨ Dialect.sqlite.columnType c = "INTEGER"
      ∧ (Element.column c inlineKey).HasPhrase .sqlite "PRIMARY KEY"

instance (c : Column) (inlineKey : Bool) : Decidable (c.RefusesNull inlineKey) :=
  inferInstanceAs (Decidable ((Element.column c inlineKey).HasPhrase .sqlite "NOT NULL"
    ∨ Dialect.sqlite.columnType c = "INTEGER"
      ∧ (Element.column c inlineKey).HasPhrase .sqlite "PRIMARY KEY"))

/-- The key is written where the column is told to, and for an auto-increment column. -/
theorem Element.hasPhrase_primaryKey (c : Column) (inlineKey : Bool) :
    (Element.column c inlineKey).HasPhrase .sqlite "PRIMARY KEY"
      ↔ inlineKey = true ∨ c.autoincrement = true := by
  have hcount := Element.keyDeclarations_column .sqlite c inlineKey
  show 0 < (Element.column c inlineKey).keyDeclarations .sqlite ↔ _
  rw [hcount]
  by_cases htold : inlineKey = true ∨ c.autoincrement = true
  · simp [htold]
  · simp [htold]

namespace Dialect

def notWord : List Char := "NOT".toList

theorem columnsLack_notWord : sqlite.ColumnsLack notWord :=
  ⟨by decide, by decide, by decide, by decide⟩

/-- Where NOT NULL is left out, its first word does not stand there for another reason. -/
theorem occurrences_notWord_standardFragments {c : Column} {inlineKey : Bool}
    (h : ¬(!c.nullable && !inlineKey) = true) :
    occurrences notWord (Fragment.skeleton (sqlite.standardFragments c inlineKey)) = 0 := by
  have hserial : sqlite.serialType? c = none := rfl
  have hkeyword : occurrences notWord sqlite.autoincrementKeyword.toList = 0 := by decide
  have hunique : occurrences notWord " UNIQUE".toList = 0 := by decide
  have hkey : occurrences notWord " PRIMARY KEY".toList = 0 := by decide
  rw [columnsLack_notWord.occurrences_standardFragments,
    columnsLack_notWord.occurrences_bodyFragments, columnsLack_notWord.occurrences_typeFragment,
    hserial, if_neg h, occurrences_clause hkeyword, occurrences_clause hunique,
    occurrences_clause hkey]
  rfl

/-- What follows the type in a column, NOT NULL aside. -/
def laterFragments (d : Dialect) (c : Column) (inlineKey : Bool) : List Fragment :=
  d.defaultFragments c.default
    ++ [.fixed (if c.autoincrement then d.autoincrementKeyword else ""),
      .fixed (if c.unique && !inlineKey then " UNIQUE" else ""),
      .fixed (if inlineKey then " PRIMARY KEY" else "")]

/-- Where NOT NULL is written, it stands between a blank and the other clauses. -/
theorem skeleton_standardFragments_of_notNull (d : Dialect) {c : Column} {inlineKey : Bool}
    (h : (!c.nullable && !inlineKey) = true) :
    Fragment.skeleton (d.standardFragments c inlineKey)
      = (Fragment.skeleton [.given c.name, .fixed " ", d.typeFragment c] ++ [' '])
        ++ ("NOT NULL".toList ++ Fragment.skeleton (d.laterFragments c inlineKey)) := by
  have hclause : Fragment.skeleton (.fixed " NOT NULL" :: d.laterFragments c inlineKey)
      = [' '] ++ ("NOT NULL".toList ++ Fragment.skeleton (d.laterFragments c inlineKey)) := rfl
  have hparts : d.standardFragments c inlineKey
      = [.given c.name, .fixed " ", d.typeFragment c]
        ++ .fixed " NOT NULL" :: d.laterFragments c inlineKey := by
    rw [standardFragments, bodyFragments, laterFragments, if_pos h]
    simp only [List.append_assoc, List.cons_append, List.nil_append]
  rw [hparts, Fragment.skeleton_append, hclause, List.append_assoc]

end Dialect

/-- **NOT NULL is written** for a column that is not nullable, unless the key is written at it. An
auto-increment column is written without. -/
theorem Element.hasPhrase_notNull (c : Column) (inlineKey : Bool) :
    (Element.column c inlineKey).HasPhrase .sqlite "NOT NULL"
      ↔ c.autoincrement = false ∧ c.nullable = false ∧ inlineKey = false := by
  rw [Element.HasPhrase, Element.fragments, Dialect.columnFragments]
  by_cases hauto : c.autoincrement = true
  · rw [if_pos hauto, hauto]
    have hfixed :
        occurrences "NOT NULL".toList "? INTEGER PRIMARY KEY AUTOINCREMENT".toList = 0 := by decide
    exact iff_of_false (Nat.not_lt.mpr (Nat.le_of_eq hfixed)) fun h => Bool.noConfusion h.1
  · rw [if_neg hauto]
    by_cases hwritten : (!c.nullable && !inlineKey) = true
    · rw [Dialect.skeleton_standardFragments_of_notNull _ hwritten]
      rw [Bool.and_eq_true, Bool.not_eq_true', Bool.not_eq_true'] at hwritten
      exact iff_of_true (occurrences_pos (by decide) _ _) ⟨Bool.eq_false_iff.mpr hauto, hwritten⟩
    · have hword : Dialect.notWord <+: "NOT NULL".toList := by decide
      have hnone := occurrences_le_of_prefix hword
        (Fragment.skeleton (Dialect.sqlite.standardFragments c inlineKey))
      rw [Dialect.occurrences_notWord_standardFragments hwritten] at hnone
      refine iff_of_false (Nat.not_lt.mpr hnone) ?_
      rintro ⟨-, hnullable, hinline⟩
      simp [hnullable, hinline] at hwritten

/-! ## The key of a table -/

namespace Table

variable {t : Table} {c : Column}

/-- **What SQLite lets a key column hold.** The only key column has to be an INTEGER, and of several
each has to be not nullable. -/
theorem refusesNull_iff (hsound : t.IsSound .sqlite) (hc : c ∈ t.columns)
    (hkey : c.primaryKey = true) :
    c.RefusesNull (t.hasInlineKey && c.primaryKey)
      ↔ if t.keyColumns = [c] then Dialect.sqlite.typeName c.type = "INTEGER"
        else c.nullable = false := by
  have hmem : c ∈ t.keyColumns := List.mem_filter.mpr ⟨hc, hkey⟩
  have htype : Dialect.sqlite.columnType c = Dialect.sqlite.typeName c.type := rfl
  rw [Column.RefusesNull, Element.hasPhrase_notNull, Element.hasPhrase_primaryKey, htype, hkey,
    Bool.and_true]
  by_cases hsole : t.keyColumns = [c]
  · rw [if_pos hsole, (hasInlineKey_of_keyColumns hsole).1]
    simp
  · -- There is another key column, so that the key is not at the column, and the column is not
    -- the one that numbers the rows.
    have hinline : t.hasInlineKey = false := by
      rw [hasInlineKey, beq_eq_false_iff_ne]
      intro hone
      obtain ⟨only, honly⟩ := List.length_eq_one_iff.mp hone
      rw [honly, List.mem_singleton] at hmem
      exact hsole (hmem ▸ honly)
    have hauto : c.autoincrement = false := by
      rw [Bool.eq_false_iff]
      intro hauto
      exact hsole (hsound.autoincrementSoleKey c hc hauto rfl)
    rw [if_neg hsole, hinline, hauto]
    simp

/-- A key column comes from a step whose modifiers make it one. -/
theorem exists_step_of_primaryKey {name : String} {steps : List Step}
    (hc : c ∈ (ofSteps name steps).columns) (hkey : c.primaryKey = true) :
    ∃ type modifiers, .column c.name type modifiers ∈ steps
      ∧ c = (Column.bare c.name type).modifyAll modifiers ∧ .primaryKey ∈ modifiers := by
  rw [ofSteps_eq] at hc
  obtain ⟨s, hs, hadds⟩ := List.mem_flatMap.mp hc
  cases s with
  | column name type modifiers =>
    rw [Step.columns, List.mem_singleton] at hadds
    have hname : c.name = name := by
      rw [hadds, Column.name_modifyAll]
      rfl
    have hflag : (false || modifiers.contains .primaryKey) = true := by
      rw [← hkey, hadds, Column.primaryKey_modifyAll]
      rfl
    rw [hname]
    exact ⟨type, modifiers, hs, hadds, by simpa using hflag⟩
  | timestamps =>
    -- The columns for the times are never flagged.
    rw [Step.columns, List.mem_cons, List.mem_singleton] at hadds
    rcases hadds with rfl | rfl <;> cases hkey
  | constraint k => cases hadds
  | index columns unique => cases hadds
  | ifNotExists => cases hadds

theorem sql_column_sqlite (hsound : t.IsSound .sqlite) (hc : c ∈ t.columns) (inlineKey : Bool) :
    ∃ clauses, (Element.column c inlineKey).sql .sqlite
      = c.name ++ " " ++ Dialect.sqlite.typeName c.type ++ clauses := by
  rw [Element.sql, Dialect.columnText]
  by_cases hauto : c.autoincrement = true
  · have hinteger : Dialect.sqlite.typeName c.type = "INTEGER" :=
      Dialect.sqliteTypeName_of_isInteger (hsound.autoincrementType c hc hauto)
    rw [if_pos hauto, hinteger]
    refine ⟨" PRIMARY KEY AUTOINCREMENT", ?_⟩
    simp only [String.append_assoc]
    rfl
  · rw [if_neg hauto]
    exact ⟨_, rfl⟩

/-- **Which key columns keep NULL out**, for a table that some steps describe. A column that is the
whole key does if its type is written as INTEGER. A column of a larger key does unless the last of
its modifiers that says anything about NULL allows it. -/
theorem key_column_refuses_null_iff {name : String} {steps : List Step} {sql : String}
    (h : (ofSteps name steps).script .sqlite = .ok sql)
    (hc : c ∈ (ofSteps name steps).columns) (hkey : c.primaryKey = true) :
    ∃ type modifiers inlineKey,
      .column c.name type modifiers ∈ steps
        ∧ c = (Column.bare c.name type).modifyAll modifiers
        ∧ .primaryKey ∈ modifiers
        ∧ Script.statements sql = ((ofSteps name steps).createHead
              ++ listed ((ofSteps name steps).elements.map (·.sql .sqlite)) ++ ");")
            :: (ofSteps name steps).indexStatements
        ∧ .column c inlineKey ∈ (ofSteps name steps).elements
        ∧ (∃ clauses, (Element.column c inlineKey).sql .sqlite
            = c.name ++ " " ++ Dialect.sqlite.typeName type ++ clauses)
        ∧ (c.RefusesNull inlineKey
            ↔ if (ofSteps name steps).keyColumns = [c] then Dialect.sqlite.typeName type = "INTEGER"
              else (modifiers.filterMap Column.Modifier.nullable?).getLast? = some false) := by
  obtain ⟨hflaw, rfl⟩ := script_eq_ok_iff.mp h
  have hsound : (ofSteps name steps).IsSound .sqlite := flaw?_eq_none_iff.mp hflaw
  obtain ⟨type, modifiers, hstep, hcolumn, hmodifier⟩ := exists_step_of_primaryKey hc hkey
  have htype : c.type = type := by
    rw [hcolumn, Column.type_modifyAll]
    rfl
  have hnullable : c.nullable = false
      ↔ (modifiers.filterMap Column.Modifier.nullable?).getLast? = some false := by
    -- Some modifier says something about NULL, at least the one that makes the column a key.
    have hsays : modifiers.filterMap Column.Modifier.nullable? ≠ [] :=
      List.ne_nil_of_mem (List.mem_filterMap.mpr ⟨.primaryKey, hmodifier, rfl⟩)
    obtain ⟨last, hlast⟩ := Option.ne_none_iff_exists'.mp (mt List.getLast?_eq_none_iff.mp hsays)
    rw [hcolumn, Column.nullable_modifyAll, hlast, Option.getD_some, Option.some.injEq]
  refine ⟨type, modifiers, (ofSteps name steps).hasInlineKey && c.primaryKey, hstep, hcolumn,
    hmodifier, statements_ofStatements .sqlite _, ?_, ?_, ?_⟩
  · exact List.mem_append_left _ (List.mem_map.mpr ⟨c, hc, rfl⟩)
  · rw [← htype]
    exact sql_column_sqlite hsound hc _
  · rw [refusesNull_iff hsound hc hkey, htype, hnullable]

/-- The key of an order line keeps NULL out, whatever its type, although the line was nullable
before. -/
theorem line_key_refuses_null :
    let steps : List Step :=
      [.column "order" .integer [.primaryKey],
        .column "line" .text [.nullable, .primaryKey, .index]]
    let line : Column := (Column.bare "line" .text).modifyAll [.nullable, .primaryKey, .index]
    (ofSteps "lines" steps).script .sqlite
        = .ok (Script.ofStatements ((ofSteps "lines" steps).statements .sqlite))
      ∧ line ∈ (ofSteps "lines" steps).columns ∧ line.primaryKey = true
      ∧ ∃ inlineKey, .column line inlineKey ∈ (ofSteps "lines" steps).elements
        ∧ line.RefusesNull inlineKey := by
  intro steps line
  have hscript : (ofSteps "lines" steps).script .sqlite
      = .ok (Script.ofStatements ((ofSteps "lines" steps).statements .sqlite)) :=
    script_eq_ok_iff.mpr ⟨by decide, rfl⟩
  have hline : line ∈ (ofSteps "lines" steps).columns := by decide
  obtain ⟨type, modifiers, inlineKey, hstep, -, -, -, helement, -, hrefuses⟩ :=
    key_column_refuses_null_iff hscript hline rfl
  refine ⟨hscript, hline, rfl, inlineKey, helement, hrefuses.mpr ?_⟩
  -- Only one step is about a column of this name.
  have hname : line.name = "line" := rfl
  obtain ⟨rfl, rfl⟩ : type = .text ∧ modifiers = [.nullable, .primaryKey, .index] := by
    simpa [steps, hname] using hstep
  decide

/-- **A text as the only key** accepts NULL in SQLite. -/
theorem text_key_accepts_null :
    let steps : List Step := [.column "code" (.string 10) [.primaryKey]]
    let code : Column := (Column.bare "code" (.string 10)).modifyAll [.primaryKey]
    (ofSteps "coupons" steps).script .sqlite
        = .ok (Script.ofStatements ["CREATE TABLE coupons (code TEXT PRIMARY KEY);"])
      ∧ code ∈ (ofSteps "coupons" steps).columns ∧ code.primaryKey = true
      ∧ ∀ inlineKey, .column code inlineKey ∈ (ofSteps "coupons" steps).elements
        → ¬code.RefusesNull inlineKey := by
  intro steps code
  refine ⟨script_eq_ok_iff.mpr ⟨by decide, congrArg Script.ofStatements (by decide +kernel)⟩,
    by decide, rfl, ?_⟩
  decide

/-- In a key of two columns, the one that is made nullable afterwards accepts NULL. -/
example :
    let post : Column := (Column.bare "post" .integer).modifyAll [.primaryKey]
    let tag : Column := (Column.bare "tag" .text).modifyAll [.primaryKey, .nullable]
    let t : Table := ofSteps "tags" [.column "post" .integer [.primaryKey],
      .column "tag" .text [.primaryKey, .nullable]]
    t.flaw? .sqlite = none ∧ t.keyColumns = [post, tag]
      ∧ post.RefusesNull false ∧ ¬tag.RefusesNull false := by decide

end Table

end SchemaSql
