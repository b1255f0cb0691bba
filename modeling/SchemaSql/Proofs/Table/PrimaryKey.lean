/-
One primary key in the statement of a table.

A key can be written at a column, as the key of several flagged columns, and as a declared
constraint, and each of these is decided at a different place. SQLite adds a fourth way.
The text of an auto-increment column has the words in it whatever the writer was told
about the key. A statement with two keys, or with none where one was meant, is refused by
the database or, worse, is not.

A declaration is counted in the text, by the phrase that makes it (`keyDeclarations`).
The caller's texts are covered, since an expression or a name may hold the phrase too.
Two lemmas say what one element contributes (`keyDeclarations_column`,
`keyDeclarations_constraint`), and only the first has anything to do with a dialect. The
rest is the check of the table. In a sound table a declared key excludes every flag, and on
SQLite an auto-increment column is the one flagged column, so that what its text says
about the key is what was meant (`keyDeclarations_of_mem_elements`). That leaves one of
the three places at a time (`filter_declaresKey`).
-/
import SchemaSql.Proofs.Table.Verdict
import SchemaSql.Proofs.Table.Words

set_option autoImplicit false

namespace SchemaSql

def keyPhrase : List Char := "PRIMARY KEY".toList

/-- **How often an element declares a primary key**, the caller's texts aside. -/
def Element.keyDeclarations (d : Dialect) (e : Element) : Nat :=
  occurrences keyPhrase (Fragment.skeleton (e.fragments d))

/-- How often the elements of a list declare a primary key. -/
def keyDeclarations (d : Dialect) : List Element → Nat
  | [] => 0
  | e :: list => e.keyDeclarations d + keyDeclarations d list

/-! ## A column

No text of a column but the clause for its key has a `K` in it. -/

namespace Dialect

theorem columnsLack_K (d : Dialect) : d.ColumnsLack ['K'] := by
  cases d <;> exact ⟨by decide, by decide, by decide, by decide⟩

theorem not_mem_skeleton_bodyFragments (d : Dialect) (c : Column) (inlineKey : Bool) :
    'K' ∉ Fragment.skeleton (d.bodyFragments c inlineKey) := by
  have hserial : ((d.serialType? c).map fun name => occurrences ['K'] name.toList).getD 0 = 0 := by
    cases d with
    | postgres =>
      rw [serialType?]
      cases c.autoincrement with
      | false => rfl
      | true => cases c.type <;> rfl
    | _ => rfl
  have hnotNull : occurrences ['K'] " NOT NULL".toList = 0 := by decide
  have hkeyword : occurrences ['K'] d.autoincrementKeyword.toList = 0 := by cases d <;> decide
  have hunique : occurrences ['K'] " UNIQUE".toList = 0 := by decide
  rw [← occurrences_singleton_iff, d.columnsLack_K.occurrences_bodyFragments,
    d.columnsLack_K.occurrences_typeFragment, hserial, occurrences_clause hnotNull,
    occurrences_clause hkeyword, occurrences_clause hunique]

theorem keyPhrase_standardFragments (d : Dialect) (c : Column) (inlineKey : Bool) :
    occurrences keyPhrase (Fragment.skeleton (d.standardFragments c inlineKey))
      = if inlineKey then 1 else 0 := by
  have hkey : 'K' ∈ keyPhrase := by decide
  have hbody := d.not_mem_skeleton_bodyFragments c inlineKey
  rw [standardFragments, Fragment.skeleton_append]
  cases inlineKey with
  | false =>
    have hnone : Fragment.skeleton [.fixed (if false then " PRIMARY KEY" else "")] = [] := rfl
    rw [hnone, List.append_nil, occurrences_eq_zero hkey hbody]
    rfl
  | true =>
    -- The blank before the clause belongs to what stands in front of the phrase.
    have hclause : Fragment.skeleton [.fixed (if true then " PRIMARY KEY" else "")]
        = [' '] ++ (keyPhrase ++ []) := rfl
    have hfront : 'K' ∉ Fragment.skeleton (d.bodyFragments c true) ++ [' '] := by
      rw [List.mem_append, not_or]
      exact ⟨hbody, by decide⟩
    rw [hclause, ← List.append_assoc, occurrences_append_phrase hkey hfront]
    decide

end Dialect

/-- **A column declares a key** where it is told to, and on SQLite wherever it is
auto-increment. -/
theorem Element.keyDeclarations_column (d : Dialect) (c : Column) (inlineKey : Bool) :
    (Element.column c inlineKey).keyDeclarations d
      = if inlineKey = true ∨ d = .sqlite ∧ c.autoincrement = true then 1 else 0 := by
  have hstandard := d.keyPhrase_standardFragments c inlineKey
  rw [Element.keyDeclarations, Element.fragments]
  cases d with
  | postgres =>
    rw [Dialect.columnFragments, hstandard]
    simp
  | mysql =>
    rw [Dialect.columnFragments, hstandard]
    simp
  | sqlite =>
    rw [Dialect.columnFragments]
    by_cases hauto : c.autoincrement = true
    · rw [if_pos hauto, if_pos (.inr ⟨rfl, hauto⟩)]
      show occurrences keyPhrase "? INTEGER PRIMARY KEY AUTOINCREMENT".toList = 1
      decide
    · rw [if_neg hauto, hstandard]
      simp [hauto]

/-! ## A constraint -/

/-- No rule but a primary key has an `M` in its text. -/
theorem Rule.not_mem_skeleton_fragments {rule : Rule} (h : rule.isPrimaryKey = false) :
    'M' ∉ Fragment.skeleton rule.fragments := by
  have hlack : ConstraintsLack ['M'] := ⟨by decide, by decide, by decide⟩
  have hkeyword : ∀ keyword ∈ ["UNIQUE (", "FOREIGN KEY (", "CHECK ("],
      occurrences ['M'] keyword.toList = 0 := by decide
  rw [← occurrences_singleton_iff, hlack.occurrences_ruleFragments]
  cases rule with
  | primaryKey columns => cases h
  | unique columns => exact hkeyword "UNIQUE (" (by decide)
  | foreignKey key => exact hkeyword "FOREIGN KEY (" (by decide)
  | check expression => exact hkeyword "CHECK (" (by decide)

/-- **A constraint declares a key** where its rule is one. -/
theorem Element.keyDeclarations_constraint (d : Dialect) (k : Constraint) :
    (Element.constraint k).keyDeclarations d = if k.rule.isPrimaryKey then 1 else 0 := by
  -- Before the rule stands at most the name of the constraint.
  obtain ⟨front, hfront, hK, hM⟩ : ∃ front, Fragment.skeleton k.fragments
      = front ++ Fragment.skeleton k.rule.fragments ∧ 'K' ∉ front ∧ 'M' ∉ front := by
    rw [Constraint.fragments]
    cases k.name with
    | none => exact ⟨[], rfl, List.not_mem_nil, List.not_mem_nil⟩
    | some name => exact ⟨"CONSTRAINT ? ".toList, rfl, by decide, by decide⟩
  rw [Element.keyDeclarations, Element.fragments, hfront]
  cases hrule : k.rule.isPrimaryKey with
  | false =>
    have hrest := Rule.not_mem_skeleton_fragments hrule
    have hnone : 'M' ∉ front ++ Fragment.skeleton k.rule.fragments := by
      rw [List.mem_append, not_or]
      exact ⟨hM, hrest⟩
    rw [occurrences_eq_zero (by decide) hnone]
    rfl
  | true =>
    cases hkey : k.rule with
    | primaryKey columns =>
      have hopening : (Fragment.fixed "PRIMARY KEY (").visible = keyPhrase ++ [' ', '('] := by
        decide
      rw [Rule.fragments, List.cons_append, Fragment.skeleton_cons, Fragment.skeleton_append,
        hopening, List.append_assoc, occurrences_append_phrase (by decide) hK]
      -- The phrase comes first, and no `P` comes after its own.
      have hclosing : 'P' ∉ Fragment.skeleton [.fixed ")"] := by decide
      have hnames : 'P' ∉ Fragment.skeleton (nameFragments columns) :=
        fun hP => absurd (mem_breaks_of_mem_nameFragments hP) (by decide)
      have hphrase : 'P' ∉ keyPhrase.tail := by decide
      apply occurrences_phrase_append (p := 'P') (by decide)
      simp only [List.mem_append, not_or]
      exact ⟨hphrase, by decide, hnames, hclosing⟩
    | _ =>
      rw [hkey] at hrule
      cases hrule

/-! ## The elements of a table -/

/-- Whether an element is meant to declare a key. -/
def Element.declaresKey : Element → Bool
  | .column _ inlineKey => inlineKey
  | .constraint k => k.rule.isPrimaryKey

namespace Table

variable {d : Dialect} {t : Table}

/-- **An element of a sound table** declares a key exactly where it is meant to, and once. -/
theorem keyDeclarations_of_mem_elements (hsound : t.IsSound d) {e : Element}
    (he : e ∈ t.elements) : e.keyDeclarations d = if e.declaresKey then 1 else 0 := by
  rw [elements, List.mem_append, List.mem_map, List.mem_map] at he
  rcases he with ⟨c, hc, rfl⟩ | ⟨k, -, rfl⟩
  · -- SQLite writes the key whatever it is told, but only for a column that is told to.
    have hsqlite : d = .sqlite ∧ c.autoincrement = true
        → (t.hasInlineKey && c.primaryKey) = true := by
      rintro ⟨hd, hauto⟩
      obtain ⟨hkey, hflag⟩ :=
        hasInlineKey_of_keyColumns (hsound.autoincrementSoleKey c hc hauto hd)
      rw [hkey, hflag, Bool.and_true]
    rw [Element.keyDeclarations_column, Element.declaresKey]
    simp only [or_iff_left_of_imp hsqlite]
  · exact Element.keyDeclarations_constraint d k

/-- Declarations are counted by the elements that are meant to make one, if these are the ones that
do. -/
theorem keyDeclarations_eq_length_filter {list : List Element}
    (h : ∀ e ∈ list, e.keyDeclarations d = if e.declaresKey then 1 else 0) :
    keyDeclarations d list = (list.filter Element.declaresKey).length := by
  induction list with
  | nil => rfl
  | cons e list ih =>
    have he := h e List.mem_cons_self
    have hlist := ih fun e' he' => h e' (List.mem_cons_of_mem e he')
    rw [keyDeclarations, he, hlist]
    by_cases hkey : e.declaresKey = true
    · rw [if_pos hkey, List.filter_cons_of_pos hkey, List.length_cons, Nat.add_comm]
    · rw [if_neg hkey, List.filter_cons_of_neg hkey, Nat.zero_add]

/-- The columns that are meant to declare a key. There is one if it is the only flagged column. -/
theorem filter_declaresKey_columns :
    (t.columns.map fun c => Element.column c (t.hasInlineKey && c.primaryKey)).filter
        Element.declaresKey
      = if t.hasInlineKey then t.keyColumns.map (Element.column · true) else [] := by
  rw [List.filter_map]
  cases t.hasInlineKey with
  | false =>
    have hnone : t.columns.filter (fun _ => false) = [] := by simp
    exact congrArg _ hnone
  | true =>
    rw [if_pos rfl]
    apply List.map_congr_left
    intro c hc
    have hflag : c.primaryKey = true := (List.mem_filter.mp hc).2
    rw [hflag]
    rfl

/-- The constraints that declare a key: that of several flagged columns and the declared ones. -/
theorem filter_declaresKey_constraints :
    ((t.compositeKey ++ t.columnReferences ++ t.constraints).map Element.constraint).filter
        Element.declaresKey
      = (t.compositeKey ++ t.tableKeys).map .constraint := by
  have hcomposite : t.compositeKey.filter (·.rule.isPrimaryKey) = t.compositeKey :=
    List.filter_eq_self.mpr fun _ hk => isPrimaryKey_of_mem_compositeKey hk
  have hreferences : t.columnReferences.filter (·.rule.isPrimaryKey) = [] := by
    rw [List.filter_eq_nil_iff]
    intro k hk
    rw [isPrimaryKey_of_mem_columnReferences hk]
    exact Bool.false_ne_true
  have hdeclares : Element.declaresKey ∘ Element.constraint = fun k => k.rule.isPrimaryKey := rfl
  rw [List.filter_map, hdeclares, List.filter_append, List.filter_append, hcomposite, hreferences,
    List.append_nil, tableKeys]

/-- **The key of a table**, in the element that is to declare it. The table does if no column is
flagged, the column if one is, and otherwise a constraint that lists all of them. -/
def keyElements (t : Table) : List Element :=
  match t.keyColumns with
  | [] => t.tableKeys.map .constraint
  | [c] => [.column c true]
  | several => [.constraint { rule := .primaryKey (several.map (·.name)) }]

/-- The key of a sound table is all that is meant to declare one. Where columns are flagged, nothing
is left for the table to declare. -/
theorem filter_declaresKey (hsound : t.IsSound d) :
    t.elements.filter Element.declaresKey = t.keyElements := by
  have hflagged : ∀ c rest, t.keyColumns = c :: rest → t.tableKeys = [] := by
    intro c rest hkeys
    have hmem : c ∈ t.keyColumns := hkeys ▸ List.mem_cons_self
    exact hsound.oneKindOfKey ⟨c, List.mem_filter.mp hmem⟩
  rw [elements, List.filter_append, filter_declaresKey_columns, filter_declaresKey_constraints,
    hasInlineKey, compositeKey, keyColumnNames, keyElements]
  rcases hkeys : t.keyColumns with _ | ⟨c, _ | ⟨c', rest⟩⟩
  · rfl
  · rw [hflagged c [] hkeys]
    rfl
  · rw [hflagged c (c' :: rest) hkeys]
    simp

/-- There is one key if any is declared at all. -/
theorem length_keyElements (hsound : t.IsSound d) :
    t.keyElements.length
      = if (∃ c ∈ t.columns, c.primaryKey = true)
            ∨ (∃ k ∈ t.constraints, k.rule.isPrimaryKey = true) then 1 else 0 := by
  have hflag : (∃ c ∈ t.columns, c.primaryKey = true) ↔ t.keyColumns ≠ [] := by
    rw [keyColumns, ne_eq, List.filter_eq_nil_iff]
    simp
  have hdeclared : (∃ k ∈ t.constraints, k.rule.isPrimaryKey = true) ↔ 0 < t.tableKeys.length := by
    rw [tableKeys, List.length_pos_iff, ne_eq, List.filter_eq_nil_iff]
    simp
  have hone := hsound.oneDeclaredKey
  simp only [hflag, hdeclared]
  rw [keyElements]
  rcases t.keyColumns with _ | ⟨c, _ | ⟨c', rest⟩⟩
  · rw [List.length_map]
    by_cases hkey : 0 < t.tableKeys.length
    · rw [if_pos (.inr hkey)]
      omega
    · rw [if_neg (not_or.mpr ⟨fun hne => hne rfl, hkey⟩)]
      omega
  · rw [if_pos (.inl (List.cons_ne_nil _ _)), List.length_singleton]
  · rw [if_pos (.inl (List.cons_ne_nil _ _)), List.length_singleton]

/-- **A created table has one primary key**, if one is declared for it, and otherwise none. This is
what its CREATE TABLE statement declares, counted over its elements without the texts of the caller.
The element that declares it is the one that should, and a column only if it is flagged. -/
theorem accepted_table_declares_one_key {sql : String} (h : t.script d = .ok sql) :
    (∃ rest, Script.statements sql
      = (t.createHead ++ listed (t.elements.map fun e => Fragment.join (e.fragments d)) ++ ");")
        :: rest)
    ∧ keyDeclarations d t.elements
      = (if (∃ c ∈ t.columns, c.primaryKey = true)
            ∨ (∃ k ∈ t.constraints, k.rule.isPrimaryKey = true) then 1 else 0)
    ∧ t.elements.filter (fun e => 0 < e.keyDeclarations d) = t.keyElements
    ∧ ∀ c inlineKey, .column c inlineKey ∈ t.elements
      → 0 < (Element.column c inlineKey).keyDeclarations d → c.primaryKey = true := by
  obtain ⟨hflaw, rfl⟩ := script_eq_ok_iff.mp h
  have hsound : t.IsSound d := flaw?_eq_none_iff.mp hflaw
  have hcount : ∀ e ∈ t.elements, e.keyDeclarations d = if e.declaresKey then 1 else 0 :=
    fun e he => keyDeclarations_of_mem_elements hsound he
  have hpositive : ∀ e ∈ t.elements, decide (0 < e.keyDeclarations d) = e.declaresKey := by
    intro e he
    rw [hcount e he]
    cases e.declaresKey <;> rfl
  refine ⟨⟨t.indexStatements, ?_⟩, ?_, ?_, ?_⟩
  · have htexts : (t.elements.map fun e => Fragment.join (e.fragments d))
        = t.elements.map (·.sql d) := List.map_congr_left fun e _ => e.join_fragments d
    rw [statements_ofStatements, htexts]
    rfl
  · rw [keyDeclarations_eq_length_filter hcount, filter_declaresKey hsound,
      length_keyElements hsound]
  · rw [List.filter_congr hpositive]
    exact filter_declaresKey hsound
  · intro c inlineKey hmem hkey
    -- It is told to declare the key, which only a flagged column is.
    have htold : inlineKey = true := (hpositive _ hmem).symm.trans (decide_eq_true hkey)
    rw [elements, List.mem_append, List.mem_map, List.mem_map] at hmem
    rcases hmem with ⟨c', -, heq⟩ | ⟨k, -, heq⟩
    · injection heq with hcolumn hinline
      rw [htold, Bool.and_eq_true] at hinline
      exact hcolumn ▸ hinline.2
    · cases heq

/-- A table for SQLite with an auto-increment key, in which callers write of keys as well. -/
def talkative : Table where
  name := "parts"
  columns :=
    [{ name := "id", type := .bigInteger, nullable := false, primaryKey := true
       autoincrement := true },
     { name := "kind", type := .custom "TEXT /* not a PRIMARY KEY */" },
     { name := "note", type := .text, default := some (.string "PRIMARY KEY") }]
  constraints :=
    [{ rule := .check "note <> 'PRIMARY KEY'" },
     { name := some "once", rule := .unique ["kind", "note"] }]

theorem talkative_declares_one_key :
    talkative.script .sqlite = .ok (Script.ofStatements (talkative.statements .sqlite))
      ∧ keyDeclarations .sqlite talkative.elements = 1
      ∧ (talkative.elements.filter fun e => 0 < e.keyDeclarations .sqlite).map (·.sql .sqlite)
        = ["id INTEGER PRIMARY KEY AUTOINCREMENT"] := by
  have hscript : talkative.script .sqlite
      = .ok (Script.ofStatements (talkative.statements .sqlite)) :=
    script_eq_ok_iff.mpr ⟨by decide +kernel, rfl⟩
  obtain ⟨-, hcount, hkey, -⟩ := accepted_table_declares_one_key hscript
  refine ⟨hscript, hcount.trans (by decide), ?_⟩
  rw [hkey]
  decide

end Table

end SchemaSql
