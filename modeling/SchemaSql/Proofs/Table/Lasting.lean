/-
Errors that last.

A table is described step by step, and nothing that was said is ever taken back: a step adds
at the end of the columns, the constraints or the indexes, and changes nothing before
(`extends_build`). So whatever is wrong with a table because of something in it stays wrong
however the description goes on (`not_isSound_of_breaks`). The table is then refused at the
end too, though perhaps for another reason, since the rules are asked in an order and a later
step may break an earlier one. Only a repeated name keeps its place: no rule but that there are
columns comes before it.

What can be mended is what is wrong because something is missing. A table without columns can
get one, a column that is not known can be declared, and a key can be declared later for the
column that numbers the rows. SQLite takes no such key, so there the last one lasts as well.
-/
import SchemaSql.Proofs.Table.Verdict
import SchemaSql.Table.Step

set_option autoImplicit false

namespace SchemaSql

/-- **An error that lasts** when the description of the table goes on. -/
def DefinitionError.IsLasting (d : Dialect) : DefinitionError → Prop
  | .duplicateColumn _ _ | .severalPrimaryKeys _ | .severalAutoincrement _
  | .autoincrementType _ _ _ | .autoincrementDefault _ _ | .autoincrementNotSoleKey _ _ _
  | .emptyColumnList _ _ => True
  | .autoincrementNoKey _ _ _ => d = .sqlite
  | .noColumns _ | .unknownColumn _ _ | .noTables => False

namespace Table

variable {d : Dialect} {t t' u : Table} {e : DefinitionError}

/-! ## Going on with a description -/

/-- **A table to which more was added.** -/
structure Extends (t t' : Table) : Prop where
  name : t'.name = t.name
  columns : t.columns <+: t'.columns
  constraints : t.constraints <+: t'.constraints
  indexes : t.indexes <+: t'.indexes

theorem Extends.refl (t : Table) : t.Extends t :=
  ⟨rfl, List.prefix_rfl, List.prefix_rfl, List.prefix_rfl⟩

theorem Extends.trans (h : t.Extends t') (h' : t'.Extends u) : t.Extends u :=
  ⟨h'.name.trans h.name, h.columns.trans h'.columns, h.constraints.trans h'.constraints,
    h.indexes.trans h'.indexes⟩

/-- **A step** adds something at the end, at one of three places. -/
theorem extends_build (t : Table) (s : Step) : t.Extends (t.build s) := by
  cases s with
  | column name type modifiers =>
    exact ⟨rfl, List.prefix_append _ _, List.prefix_rfl, List.prefix_rfl⟩
  | timestamps => exact ⟨rfl, List.prefix_append _ _, List.prefix_rfl, List.prefix_rfl⟩
  | constraint k => exact ⟨rfl, List.prefix_rfl, List.prefix_append _ _, List.prefix_rfl⟩
  | index columns unique => exact ⟨rfl, List.prefix_rfl, List.prefix_rfl, List.prefix_append _ _⟩
  | ifNotExists => exact ⟨rfl, List.prefix_rfl, List.prefix_rfl, List.prefix_rfl⟩

/-- **Steps** do no more. -/
theorem extends_buildAll (t : Table) (steps : List Step) : t.Extends (t.buildAll steps) := by
  induction steps generalizing t with
  | nil => exact Extends.refl t
  | cons s steps ih =>
    rw [buildAll_cons]
    exact (extends_build t s).trans (ih (t.build s))

theorem extends_ofSteps (name : String) (steps more : List Step) :
    (ofSteps name steps).Extends (ofSteps name (steps ++ more)) := by
  unfold ofSteps
  rw [buildAll_append]
  exact extends_buildAll _ more

/-! ## What an extended table keeps -/

theorem Extends.columnNames (h : t.Extends t') : t.columnNames <+: t'.columnNames := by
  unfold Table.columnNames
  exact h.columns.map _

theorem Extends.keyColumns (h : t.Extends t') : t.keyColumns <+: t'.keyColumns := by
  unfold Table.keyColumns
  exact h.columns.filter _

theorem Extends.tableKeys (h : t.Extends t') : t.tableKeys <+: t'.tableKeys := by
  unfold Table.tableKeys
  exact h.constraints.filter _

theorem Extends.autoincrementColumns (h : t.Extends t') :
    t.autoincrementColumns <+: t'.autoincrementColumns := by
  unfold Table.autoincrementColumns
  exact h.columns.filter _

theorem Extends.mem_listings (h : t.Extends t') {l : Listing} (hl : l ∈ t.listings) :
    l ∈ t'.listings := by
  unfold listings at hl ⊢
  rw [List.mem_append] at hl ⊢
  rcases hl with hl | hl
  · exact .inl ((h.constraints.filterMap _).subset hl)
  · exact .inr ((h.indexes.map _).subset hl)

/-- In a sound table no list is empty that must not be. -/
theorem IsSound.not_isIncomplete (h : t.IsSound d) {l : Listing} (hl : l ∈ t.listings) :
    ¬l.IsIncomplete := by
  have hlists := h.columnListFlaw?_eq_none
  rw [columnListFlaw?_eq, List.findSome?_eq_none_iff] at hlists
  exact (listingFlaw?_eq_none_iff.mp (hlists l hl)).1

/-- A column that is the whole key was so from the time at which it was there. -/
theorem Extends.isSoleKey (h : t.Extends t') {c : Column} (hc : c ∈ t.columns)
    (hsole : t'.IsSoleKey c) : t.IsSoleKey c := by
  rw [isSoleKey_iff (h.columns.subset hc)] at hsole
  rw [isSoleKey_iff hc]
  exact ⟨hsole.1, Nat.le_trans h.keyColumns.length_le hsole.2⟩

/-! ## What lasts -/

/-- **What is wrong with a table stays wrong**, whatever is added, if the error is a lasting one. -/
theorem not_isSound_of_breaks (hbreaks : t.Breaks d e) (hlasting : e.IsLasting d)
    (hext : t.Extends t') : ¬t'.IsSound d := by
  intro hsound
  have hcolumn : ∀ {c : Column}, t.autoincrementColumns = [c] →
      c ∈ t.columns ∧ c ∈ t'.columns ∧ c.autoincrement = true := by
    intro c hc
    obtain ⟨hmem, hauto⟩ := mem_columns_of_autoincrementColumns hc
    exact ⟨hmem, hext.columns.subset hmem, hauto⟩
  -- By the rule. What breaks it is there at the end as well, and a sound table has no such thing.
  cases e with
  | duplicateColumn table column =>
    obtain ⟨-, before, after, hsplit, -, hrepeat⟩ := hbreaks
    have hnodup : t.columnNames.Nodup := hsound.distinctNames.sublist hext.columnNames.sublist
    rw [hsplit, List.nodup_append] at hnodup
    exact hnodup.2.2 column hrepeat column List.mem_cons_self rfl
  | severalPrimaryKeys table =>
    have hkeys := hext.tableKeys.length_le
    rcases hbreaks.2 with hmany | ⟨hone, c, hc, hflagged⟩
    · have := hsound.oneDeclaredKey
      omega
    · have hnone := hsound.oneKindOfKey ⟨c, hext.columns.subset hc, hflagged⟩
      rw [hnone, List.length_nil] at hkeys
      omega
  | severalAutoincrement table =>
    have hcolumns := hext.autoincrementColumns.length_le
    have := hsound.oneAutoincrement
    have := hbreaks.2
    omega
  | autoincrementType table column type =>
    obtain ⟨-, c, hc, -, -, htype⟩ := hbreaks
    obtain ⟨-, hmem, hauto⟩ := hcolumn hc
    rw [hsound.autoincrementType c hmem hauto] at htype
    cases htype
  | autoincrementDefault table column =>
    obtain ⟨-, c, hc, -, hdefault⟩ := hbreaks
    obtain ⟨-, hmem, hauto⟩ := hcolumn hc
    exact hdefault (hsound.autoincrementDefault c hmem hauto)
  | autoincrementNoKey table column dialect =>
    obtain ⟨-, -, -, c, hc, -, hkey⟩ := hbreaks
    obtain ⟨-, hmem, hauto⟩ := hcolumn hc
    -- SQLite accepts only a flag, and the column never gets one.
    have hsole := hsound.autoincrementSoleKey c hmem hauto hlasting
    exact hkey (.inl ((isSoleKey_iff hmem).mp hsole).1)
  | autoincrementNotSoleKey table column dialect =>
    obtain ⟨-, -, hd, c, hc, -, hsole⟩ := hbreaks
    obtain ⟨hmem, hmem', hauto⟩ := hcolumn hc
    exact hsole (hext.isSoleKey hmem (hsound.autoincrementSoleKey c hmem' hauto hd))
  | emptyColumnList table kind =>
    obtain ⟨before, l, after, hsplit, hfault, -⟩ := hbreaks
    have hl : l ∈ t.listings := by
      rw [hsplit]
      exact List.mem_append_right _ List.mem_cons_self
    exact hsound.not_isIncomplete (hext.mem_listings hl) hfault.2.2
  | noColumns table => exact hlasting
  | unknownColumn table column => exact hlasting
  | noTables => exact hlasting

/-- **A repeated name is always the answer**, once it stands there. -/
theorem flaw?_duplicateColumn_of_extends {table column : String}
    (h : t.flaw? d = some (.duplicateColumn table column)) (hext : t.Extends t') :
    t'.flaw? d = some (.duplicateColumn table column) := by
  obtain ⟨⟨htable, before, after, hsplit, hnodup, hrepeat⟩, -⟩ := flaw?_eq_some_iff.mp h
  obtain ⟨more, hmore⟩ := hext.columnNames
  have hsplit' : t'.columnNames = before ++ column :: (after ++ more) := by
    rw [← hmore, hsplit, List.append_assoc, List.cons_append]
  rw [flaw?_eq_some_iff]
  refine ⟨⟨htable.trans hext.name.symm, before, _, hsplit', hnodup, hrepeat⟩, ?_⟩
  -- Only the rule that there are columns comes before, and there are some.
  intro e he
  cases e with
  | noColumns table =>
    unfold columnNames at hsplit'
    rw [he.2, List.map_nil] at hsplit'
    simp at hsplit'
  | _ => simp [DefinitionError.rank]

/-- The errors that further steps may lead out of are about something that is missing. -/
theorem eq_of_breaks_of_not_isLasting (hbreaks : t.Breaks d e) (hmended : ¬e.IsLasting d) :
    (∃ table, e = .noColumns table) ∨ (∃ table column, e = .unknownColumn table column)
      ∨ d = .mysql ∧ ∃ table column, e = .autoincrementNoKey table column .mysql := by
  cases e with
  | noColumns table => exact .inl ⟨table, rfl⟩
  | unknownColumn table column => exact .inr (.inl ⟨table, column, rfl⟩)
  | autoincrementNoKey table column dialect =>
    obtain ⟨-, rfl, hd, -⟩ := hbreaks
    rcases hd with rfl | rfl
    · exact .inr (.inr ⟨rfl, table, column, rfl⟩)
    · exact absurd rfl hmended
  | noTables => exact hbreaks.elim
  | _ => exact absurd trivial hmended

/-! ## What can be mended -/

/-- **An error that can be mended**: some steps lead to it, and further steps out of it. -/
def IsMendable (d : Dialect) (e : DefinitionError) : Prop :=
  ∃ name steps more sql, (ofSteps name steps).script d = .error e
    ∧ (ofSteps name (steps ++ more)).script d = .ok sql

theorem isMendable_of_flaw? (name : String) (steps more : List Step)
    (h : (ofSteps name steps).flaw? d = some e)
    (hmore : (ofSteps name (steps ++ more)).IsSound d) : IsMendable d e := by
  obtain ⟨sql, hsql⟩ := exists_script_iff.mpr hmore
  exact ⟨name, steps, more, sql, script_eq_error_iff.mpr h, hsql⟩

theorem isMendable_noColumns (d : Dialect) (table : String) :
    IsMendable d (.noColumns table) := by
  refine isMendable_of_flaw? table [] [.column "id" .integer []] rfl ?_
  rw [← flaw?_eq_none_iff]
  cases d <;> rfl

/-- A constraint may name a column before the column is declared. -/
theorem isMendable_unknownColumn (d : Dialect) (table column : String) :
    IsMendable d (.unknownColumn table column) := by
  -- There has to be a column, and it must not be the one that is asked for.
  obtain ⟨other, hother⟩ : ∃ other : String, column ≠ other := by
    by_cases ha : column = "a"
    · exact ⟨"b", by rw [ha]; decide⟩
    · exact ⟨"a", ha⟩
  have hbefore : (ofSteps table [.column other .text [], .unique [column]]).flaw? d
      = some (.unknownColumn table column) := by
    simp [ofSteps, build, empty, Column.bare, Step.unique, hother, flaw?, emptyFlaw?, nameFlaw?,
      firstRepeat?, columnNames, keyFlaw?, tableKeys, keyColumns, Rule.isPrimaryKey,
      autoincrementFlaw?, autoincrementColumns, columnListFlaw?, constraintFlaw?,
      Rule.columnList?, Rule.hasEmptyList, unknownColumnFlaw?, Constraint.columns, Rule.columns]
  have hafter : (ofSteps table
      [.column other .text [], .unique [column], .column column .text []]).IsSound d := by
    constructor <;> simp [ofSteps, build, empty, Column.bare, Step.unique, columnNames, tableKeys,
      autoincrementColumns, Rule.isPrimaryKey, Constraint.columns, Rule.columns, Ne.symm hother]
  exact isMendable_of_flaw? table [.column other .text [], .unique [column]]
    [.column column .text []] hbefore hafter

/-- MySQL takes a key that is declared later. -/
theorem isMendable_autoincrementNoKey (table column : String) :
    IsMendable .mysql (.autoincrementNoKey table column .mysql) := by
  have hafter : (ofSteps table
      [.column column .integer [.autoincrement], .primaryKey [column]]).IsSound .mysql := by
    constructor <;> simp [ofSteps, build, empty, Column.bare, Column.modify, Step.primaryKey,
      columnNames, tableKeys, autoincrementColumns, DataType.isInteger, InPrimaryKey,
      Rule.isPrimaryKey, Constraint.columns, Rule.columns]
  exact isMendable_of_flaw? table [.column column .integer [.autoincrement]]
    [.primaryKey [column]] rfl hafter

/-- **Which errors last.** Where the steps of a description lead to a lasting error, no further step
leads out of it: the table is refused at the end, and with the same error if that is a repeated
name. The errors that can be mended by further steps are those about a table without columns and
about an unknown column, and on MySQL the one about a missing key. -/
theorem lasting_errors (d : Dialect) :
    (∀ name steps more e, (ofSteps name steps).script d = .error e →
        (e.IsLasting d → ∃ e', (ofSteps name (steps ++ more)).script d = .error e')
          ∧ ∀ table column, e = .duplicateColumn table column →
              (ofSteps name (steps ++ more)).script d = .error e)
      ∧ ∀ e, IsMendable d e
          ↔ (∃ table, e = .noColumns table) ∨ (∃ table column, e = .unknownColumn table column)
            ∨ d = .mysql ∧ ∃ table column, e = .autoincrementNoKey table column .mysql := by
  refine ⟨?_, ?_⟩
  · intro name steps more e h
    have hext := extends_ofSteps name steps more
    rw [script_eq_error_iff] at h
    refine ⟨?_, ?_⟩
    · intro hlasting
      have hflaw : (ofSteps name (steps ++ more)).flaw? d ≠ none := by
        rw [ne_eq, flaw?_eq_none_iff]
        exact not_isSound_of_breaks (flaw?_eq_some_iff.mp h).1 hlasting hext
      obtain ⟨e', he'⟩ := Option.ne_none_iff_exists'.mp hflaw
      exact ⟨e', script_eq_error_iff.mpr he'⟩
    · rintro table column rfl
      exact script_eq_error_iff.mpr (flaw?_duplicateColumn_of_extends h hext)
  · intro e
    constructor
    · rintro ⟨name, steps, more, sql, h, hok⟩
      have hbreaks : (ofSteps name steps).Breaks d e :=
        (flaw?_eq_some_iff.mp (script_eq_error_iff.mp h)).1
      apply eq_of_breaks_of_not_isLasting hbreaks
      intro hlasting
      exact not_isSound_of_breaks hbreaks hlasting (extends_ofSteps name steps more)
        (exists_script_iff.mp ⟨sql, hok⟩)
    · rintro (⟨table, rfl⟩ | ⟨table, column, rfl⟩ | ⟨rfl, table, column, rfl⟩)
      · exact isMendable_noColumns d table
      · exact isMendable_unknownColumn d table column
      · exact isMendable_autoincrementNoKey table column

/-- A key that is declared later is no help on SQLite, but the error is another one then. -/
theorem late_key_does_not_mend :
    let steps : List Step := [.column "id" .integer [.autoincrement]]
    (ofSteps "t" steps).script .sqlite = .error (.autoincrementNoKey "t" "id" .sqlite)
      ∧ (∃ e, (ofSteps "t" (steps ++ [.primaryKey ["id"]])).script .sqlite = .error e)
      ∧ (ofSteps "t" (steps ++ [.primaryKey ["id"]])).script .sqlite
          = .error (.autoincrementNotSoleKey "t" "id" .sqlite) := by
  intro steps
  have hnoKey : (ofSteps "t" steps).script .sqlite
      = .error (.autoincrementNoKey "t" "id" .sqlite) := script_eq_error_iff.mpr (by decide)
  refine ⟨hnoKey, ?_, script_eq_error_iff.mpr (by decide)⟩
  exact ((lasting_errors .sqlite).1 "t" steps [.primaryKey ["id"]] _ hnoKey).1 rfl

end Table

end SchemaSql
