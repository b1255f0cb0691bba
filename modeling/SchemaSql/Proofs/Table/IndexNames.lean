/-
The names of indexes.

An index is named for its table, its columns and its kind, and these are joined by underscores.
An underscore is also a character of many column names, and in the name of an index nothing tells
the one from the other. What can be read back are the words between the underscores, and the
words of joined names are the words of the names, one list behind the other
(`words_intercalate`). The kind is told apart by the last character.

So two indexes of a table have the same name exactly if they are of one kind and their columns
have the same words in the same order (`Index.name_forTable_eq_iff`). An index on `a_b` and one
on `a` and `b` are such a pair. Where no column has an underscore in its name, the words are the
columns, and different indexes have different names.
-/
import SchemaSql.Proofs.Table.Interleaving
import SchemaSql.Proofs.Table.Verdict

set_option autoImplicit false

namespace SchemaSql

/-! ## Words -/

/-- **The words of a name**: what stands between its underscores. -/
def words (name : String) : List (List Char) := name.toList.splitOn '_'

/-- A name is its words, joined by underscores. -/
theorem words_inj {a b : String} : words a = words b ↔ a = b := by
  have hjoined : ∀ name : String, ['_'].intercalate (words name) = name.toList :=
    fun _ => List.intercalate_splitOn '_'
  refine ⟨fun h => ?_, congrArg words⟩
  rw [← String.toList_inj, ← hjoined a, ← hjoined b, h]

theorem words_of_not_mem {name : String} (h : '_' ∉ name.toList) : words name = [name.toList] :=
  List.splitOn_eq_singleton h

/-- An underscore ends a word. -/
theorem words_append_underscore (a b : String) : words (a ++ "_" ++ b) = words a ++ words b := by
  have hlist : (a ++ "_" ++ b).toList = a.toList ++ '_' :: b.toList := by
    rw [String.toList_append, String.toList_append, List.append_assoc]
    rfl
  rw [words, words, words, hlist]
  simp only [List.splitOn_eq_splitOnP]
  exact List.splitOnP_append_cons a.toList b.toList (beq_self_eq_true '_')

/-- **The words of joined names** are the words of the names. -/
theorem words_intercalate {names : List String} (h : names ≠ []) :
    words ("_".intercalate names) = names.flatMap words := by
  induction names with
  | nil => exact absurd rfl h
  | cons name names ih =>
    rcases eq_or_ne names [] with rfl | hnames
    · rw [String.intercalate_singleton, List.flatMap_singleton]
    · rw [String.intercalate_cons_of_ne_nil hnames, words_append_underscore, ih hnames,
        List.flatMap_cons]

/-- Where no name has an underscore the words are the names. -/
theorem flatMap_words_inj {names names' : List String} (h : ∀ name ∈ names, '_' ∉ name.toList)
    (h' : ∀ name ∈ names', '_' ∉ name.toList) :
    names.flatMap words = names'.flatMap words ↔ names = names' := by
  have hwords : ∀ {names : List String}, (∀ name ∈ names, '_' ∉ name.toList) →
      names.flatMap words = names.map String.toList := by
    intro names hnames
    induction names with
    | nil => rfl
    | cons name names ih =>
      rw [List.forall_mem_cons] at hnames
      rw [List.flatMap_cons, words_of_not_mem hnames.1, ih hnames.2, List.map_cons,
        List.singleton_append]
  rw [hwords h, hwords h']
  exact List.map_inj_right fun _ _ => String.toList_inj.mp

/-! ## Names -/

/-- **When two indexes have the same name**: if they are of one kind and their columns have the same
words. -/
theorem Index.name_forTable_eq_iff (table : String) {columns columns' : List String}
    (hcolumns : columns ≠ []) (hcolumns' : columns' ≠ []) (unique unique' : Bool) :
    (forTable table columns unique).name = (forTable table columns' unique').name
      ↔ unique = unique' ∧ columns.flatMap words = columns'.flatMap words := by
  rw [← words_intercalate hcolumns, ← words_intercalate hcolumns', words_inj, forTable, forTable]
  by_cases hkind : unique = unique'
  · subst hkind
    simp only [String.append_assoc, String.append_right_inj, String.append_left_inj, true_and]
  · -- The names end in the kind, and the two kinds end in different characters.
    have hlast : ∀ (front : String) (u : Bool),
        (front ++ (if u then "unique" else "index")).toList.getLast?
          = some (if u then 'e' else 'x') := by
      intro front u
      rw [String.toList_append, List.getLast?_append]
      cases u <;> rfl
    refine iff_of_false (fun h => ?_) (fun h => hkind h.1)
    have hends := congrArg (fun name => name.toList.getLast?) h
    simp only [hlast, Option.some.injEq] at hends
    cases unique <;> cases unique' <;> simp at hends hkind

namespace Table

/-- Every index of a described table is named for its columns and its kind. -/
theorem eq_forTable_of_mem_allIndexes {name : String} {steps : List Step} {i : Index}
    (h : i ∈ (ofSteps name steps).allIndexes) :
    i = Index.forTable name i.columns i.unique := by
  rw [ofSteps_eq, allIndexes, List.mem_append] at h
  rcases h with hflag | hdeclared
  · obtain ⟨c, -, rfl⟩ := List.mem_map.mp hflag
    rfl
  · obtain ⟨s, -, hs⟩ := List.mem_flatMap.mp hdeclared
    cases s with
    | index columns unique =>
      rw [List.mem_singleton.mp hs]
      rfl
    | _ => cases hs

/-- An index of a sound table lists columns, and they are columns of the table. -/
theorem IsSound.columns_of_mem_allIndexes {d : Dialect} {t : Table} (hsound : t.IsSound d)
    {i : Index} (h : i ∈ t.allIndexes) :
    i.columns ≠ [] ∧ ∀ name ∈ i.columns, name ∈ t.columnNames := by
  rcases List.mem_append.mp h with hflag | hdeclared
  · obtain ⟨c, hc, rfl⟩ := List.mem_map.mp hflag
    refine ⟨List.cons_ne_nil _ _, fun name hname => ?_⟩
    rw [List.mem_singleton.mp hname]
    exact List.mem_map_of_mem (List.mem_filter.mp hc).1
  · exact hsound.indexColumns i hdeclared

/-- **Which indexes of a table share a name.** The statements of an accepted table are the CREATE
TABLE statement and one statement for each index. Two indexes, whether a column asks for them or
they are declared, have the same name exactly if both are unique or neither is, and their columns
have the same words. If no column has an underscore in its name, only an index and its repetition
have the same name. -/
theorem index_names_agree_iff {d : Dialect} {name : String} {steps : List Step} {sql : String}
    (h : (ofSteps name steps).script d = .ok sql) :
    let t := ofSteps name steps
    Script.statements sql = t.createStatement d :: t.allIndexes.map (·.createStatement t.name)
      ∧ (∀ i ∈ t.allIndexes, ∀ j ∈ t.allIndexes,
          i.name = j.name
            ↔ i.unique = j.unique ∧ i.columns.flatMap words = j.columns.flatMap words)
      ∧ ((∀ c ∈ t.columns, '_' ∉ c.name.toList) →
          ∀ i ∈ t.allIndexes, ∀ j ∈ t.allIndexes, i.name = j.name ↔ i = j) := by
  intro t
  have hsound : t.IsSound d := exists_script_iff.mp ⟨sql, h⟩
  have hnames : ∀ i ∈ t.allIndexes, ∀ j ∈ t.allIndexes,
      i.name = j.name
        ↔ i.unique = j.unique ∧ i.columns.flatMap words = j.columns.flatMap words := by
    intro i hi j hj
    have hi' := (hsound.columns_of_mem_allIndexes hi).1
    have hj' := (hsound.columns_of_mem_allIndexes hj).1
    rw [← Index.name_forTable_eq_iff name hi' hj', ← eq_forTable_of_mem_allIndexes hi,
      ← eq_forTable_of_mem_allIndexes hj]
  refine ⟨?_, hnames, ?_⟩
  · obtain ⟨-, rfl⟩ := script_eq_ok_iff.mp h
    exact statements_ofStatements d t
  · intro hplain i hi j hj
    have hcolumns : ∀ k ∈ t.allIndexes, ∀ column ∈ k.columns, '_' ∉ column.toList := by
      intro k hk column hcolumn
      have hknown := (hsound.columns_of_mem_allIndexes hk).2 column hcolumn
      obtain ⟨c, hc, rfl⟩ := List.mem_map.mp hknown
      exact hplain c hc
    refine ⟨fun hname => ?_, congrArg Index.name⟩
    obtain ⟨hunique, hwords⟩ := (hnames i hi j hj).mp hname
    rw [eq_forTable_of_mem_allIndexes hi, eq_forTable_of_mem_allIndexes hj, hunique,
      (flatMap_words_inj (hcolumns i hi) (hcolumns j hj)).mp hwords]

/-- A column with an index that is declared again, and two indexes on the same columns. -/
def accountSteps : List Step :=
  [.column "tenant" .integer [.notNull], .column "slug" .text [.index],
    .index ["tenant", "slug"] true, .index ["tenant", "slug"] false, .index ["slug"] false]

theorem account_index_names_agree_iff :
    (ofSteps "accounts" accountSteps).script .postgres
        = .ok (Script.ofStatements ((ofSteps "accounts" accountSteps).statements .postgres))
      ∧ (∀ c ∈ (ofSteps "accounts" accountSteps).columns, '_' ∉ c.name.toList)
      ∧ (ofSteps "accounts" accountSteps).allIndexes.map (·.name)
          = ["accounts_slug_index", "accounts_tenant_slug_unique", "accounts_tenant_slug_index",
            "accounts_slug_index"]
      ∧ ∀ i ∈ (ofSteps "accounts" accountSteps).allIndexes,
          ∀ j ∈ (ofSteps "accounts" accountSteps).allIndexes, i.name = j.name ↔ i = j := by
  have hscript : (ofSteps "accounts" accountSteps).script .postgres
      = .ok (Script.ofStatements ((ofSteps "accounts" accountSteps).statements .postgres)) :=
    script_eq_ok_iff.mpr ⟨by decide +kernel, rfl⟩
  have hplain : ∀ c ∈ (ofSteps "accounts" accountSteps).columns, '_' ∉ c.name.toList := by
    decide +kernel
  exact ⟨hscript, hplain, by decide +kernel, (index_names_agree_iff hscript).2.2 hplain⟩

/-- A column with an index, and an index on two columns that make up its name. -/
def flightSteps : List Step :=
  [.column "home_town" .text [.index], .column "home" .text [], .column "town" .text [],
    .index ["home", "town"] false]

/-- Two indexes on different columns have the same name. -/
theorem flight_indexes_share_name :
    (ofSteps "flights" flightSteps).script .sqlite = .ok (Script.ofStatements
        ["CREATE TABLE flights (home_town TEXT, home TEXT, town TEXT);",
          "CREATE INDEX flights_home_town_index ON flights (home_town);",
          "CREATE INDEX flights_home_town_index ON flights (home, town);"])
      ∧ ∃ i ∈ (ofSteps "flights" flightSteps).allIndexes,
          ∃ j ∈ (ofSteps "flights" flightSteps).allIndexes,
            i.columns ≠ j.columns ∧ i.name = j.name := by
  refine ⟨script_eq_ok_iff.mpr ⟨by decide +kernel, congrArg Script.ofStatements ?_⟩, ?_⟩
  · decide +kernel
  · decide +kernel

end Table

end SchemaSql
