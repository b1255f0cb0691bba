/-
What a sequence of modifiers makes of a column.

Modifiers are applied one after the other, and each changes one or two fields. So a sequence
can be looked at field by field, and there are only a few ways in which a field can depend on
it. A field that no modifier changes stays as it was. A flag that can only be set is set if
one of the modifiers sets it, wherever it stands. And where several modifiers have a say in
a field, the last of them has it.

Each of these is a law about any field with a certain step (`kept_modifyAll`,
`flag_modifyAll`, `last_modifyAll`), and the fields follow by saying what their step is.

The reference is the one field that fits none of them. A new reference replaces the old one
together with its actions, and an action without a reference is lost. So a sequence is cut at
its last reference. Before the cut nothing counts, and behind it there is no other reference,
so that each of the two actions is again decided by the last word on it
(`references_modifyAll_of_no_target`).
-/
import SchemaSql.Table.Step

set_option autoImplicit false

namespace SchemaSql.Column

/-! ## Ways to depend on a sequence -/

section Fields

variable {α : Type} {field : Column → α}

theorem kept_modifyAll (hstep : ∀ c m, field (c.modify m) = field c) (c : Column)
    (ms : List Modifier) : field (c.modifyAll ms) = field c := by
  induction ms generalizing c with
  | nil => rfl
  | cons m ms ih => rw [modifyAll_cons, ih, hstep]

/-- **A flag** that one modifier sets and none takes back. -/
theorem flag_modifyAll {flag : Column → Bool} {setter : Modifier}
    (hstep : ∀ c m, flag (c.modify m) = (flag c || setter == m)) (c : Column)
    (ms : List Modifier) : flag (c.modifyAll ms) = (flag c || ms.contains setter) := by
  induction ms generalizing c with
  | nil => simp
  | cons m ms ih => rw [modifyAll_cons, ih, hstep, List.contains_cons, Bool.or_assoc]

/-- **The last modifier that has a say** decides. -/
theorem last_modifyAll {word : Modifier → Option α}
    (hstep : ∀ c m, field (c.modify m) = (word m).getD (field c)) (c : Column)
    (ms : List Modifier) :
    field (c.modifyAll ms) = ((ms.filterMap word).getLast?).getD (field c) := by
  induction ms generalizing c with
  | nil => rfl
  | cons m ms ih =>
    rw [modifyAll_cons, ih, hstep]
    cases hword : word m with
    | none => rw [List.filterMap_cons_none hword, Option.getD_none]
    | some value =>
      -- What it says counts if no later one says anything.
      rw [List.filterMap_cons_some hword, List.getLast?_cons, Option.getD_some, Option.getD_some]

end Fields

/-! ## The fields -/

theorem name_modifyAll (c : Column) (ms : List Modifier) : (c.modifyAll ms).name = c.name :=
  kept_modifyAll name_modify c ms

theorem type_modifyAll (c : Column) (ms : List Modifier) : (c.modifyAll ms).type = c.type :=
  kept_modifyAll type_modify c ms

theorem primaryKey_modifyAll (c : Column) (ms : List Modifier) :
    (c.modifyAll ms).primaryKey = (c.primaryKey || ms.contains .primaryKey) := by
  apply flag_modifyAll
  intro c m
  cases m <;> simp [modify]

theorem unique_modifyAll (c : Column) (ms : List Modifier) :
    (c.modifyAll ms).unique = (c.unique || ms.contains .unique) := by
  apply flag_modifyAll
  intro c m
  cases m <;> simp [modify]

theorem autoincrement_modifyAll (c : Column) (ms : List Modifier) :
    (c.modifyAll ms).autoincrement = (c.autoincrement || ms.contains .autoincrement) := by
  apply flag_modifyAll
  intro c m
  cases m <;> simp [modify]

theorem index_modifyAll (c : Column) (ms : List Modifier) :
    (c.modifyAll ms).index = (c.index || ms.contains .index) := by
  apply flag_modifyAll
  intro c m
  cases m <;> simp [modify]

/-- What a modifier says about NULL. To be a key is to be not NULL. -/
def Modifier.nullable? : Modifier → Option Bool
  | .notNull | .primaryKey => some false
  | .nullable => some true
  | .unique | .autoincrement | .index | .default _ | .references _ _ | .onDelete _
  | .onUpdate _ => none

theorem nullable_modifyAll (c : Column) (ms : List Modifier) :
    (c.modifyAll ms).nullable = ((ms.filterMap Modifier.nullable?).getLast?).getD c.nullable := by
  apply last_modifyAll
  intro c m
  cases m <;> rfl

/-- The default that a modifier gives. -/
def Modifier.default? : Modifier → Option DefaultValue
  | .default value => some value
  | .notNull | .nullable | .primaryKey | .unique | .autoincrement | .index | .references _ _
  | .onDelete _ | .onUpdate _ => none

theorem default_modifyAll (c : Column) (ms : List Modifier) :
    (c.modifyAll ms).default = ((ms.filterMap Modifier.default?).getLast?).or c.default := by
  have hlast : (c.modifyAll ms).default
      = ((ms.filterMap fun m => m.default?.map some).getLast?).getD c.default := by
    apply last_modifyAll
    intro c m
    cases m <;> rfl
  rw [hlast, ← List.map_filterMap, List.getLast?_map]
  cases (ms.filterMap Modifier.default?).getLast? <;> rfl

/-! ## The reference -/

/-- The table and the column that a modifier refers to. -/
def Modifier.target? : Modifier → Option (String × String)
  | .references table column => some (table, column)
  | .notNull | .nullable | .primaryKey | .unique | .autoincrement | .index | .default _
  | .onDelete _ | .onUpdate _ => none

def Modifier.onDelete? : Modifier → Option ReferentialAction
  | .onDelete action => some action
  | .notNull | .nullable | .primaryKey | .unique | .autoincrement | .index | .default _
  | .references _ _ | .onUpdate _ => none

def Modifier.onUpdate? : Modifier → Option ReferentialAction
  | .onUpdate action => some action
  | .notNull | .nullable | .primaryKey | .unique | .autoincrement | .index | .default _
  | .references _ _ | .onDelete _ => none

end SchemaSql.Column

namespace SchemaSql

open Column

/-- **A reference after some modifiers**, none of which refers to anything: the last action of each
kind counts. -/
def Reference.amended (r : Reference) (ms : List Modifier) : Reference :=
  { r with
    onDelete := ((ms.filterMap Modifier.onDelete?).getLast?).or r.onDelete
    onUpdate := ((ms.filterMap Modifier.onUpdate?).getLast?).or r.onUpdate }

theorem Reference.amended_append (r : Reference) (ms ns : List Modifier) :
    r.amended (ms ++ ns) = (r.amended ms).amended ns := by
  simp only [amended, List.filterMap_append, List.getLast?_append, Option.or_assoc]

namespace Column

theorem references_modify_of_no_target {m : Modifier} (h : m.target? = none) (c : Column) :
    (c.modify m).references = c.references.map (·.amended [m]) := by
  cases m with
  | references table column => cases h
  | onDelete action => rfl
  | onUpdate action => rfl
  | _ =>
    show c.references = c.references.map id
    rw [Option.map_id, id_eq]

theorem references_modifyAll_of_no_target {ms : List Modifier}
    (h : ∀ m ∈ ms, m.target? = none) (c : Column) :
    (c.modifyAll ms).references = c.references.map (·.amended ms) := by
  induction ms generalizing c with
  | nil =>
    show c.references = c.references.map id
    rw [Option.map_id, id_eq]
  | cons m ms ih =>
    have hm : m.target? = none := h m List.mem_cons_self
    have hms : ∀ m ∈ ms, m.target? = none := fun m' hm' => h m' (List.mem_cons_of_mem m hm')
    rw [modifyAll_cons, ih hms, references_modify_of_no_target hm, Option.map_map]
    congr 1
    funext r
    -- The actions of the other modifiers come later and so count first.
    exact (r.amended_append [m] ms).symm

end Column

/-! ## A new column -/

/-- **A column with its modifiers**, whatever they are and in whichever order they come. The column
is put behind those that the table has, and nothing else of the table changes. Its name and its
type are the given ones. A flag is set if its modifier is there. The last modifier that says
something about NULL decides on it, and the last default is the default. The column refers to what
the last reference names, with the last action of each kind that comes behind it. -/
theorem Table.build_column_closed_form (t : Table) (name : String) (type : DataType)
    (ms : List Modifier) :
    ∃ c : Column, t.build (.column name type ms) = { t with columns := t.columns ++ [c] }
      ∧ c.name = name ∧ c.type = type
      ∧ (c.primaryKey = true ↔ .primaryKey ∈ ms)
      ∧ (c.unique = true ↔ .unique ∈ ms)
      ∧ (c.autoincrement = true ↔ .autoincrement ∈ ms)
      ∧ (c.index = true ↔ .index ∈ ms)
      ∧ c.nullable = ((ms.filterMap Modifier.nullable?).getLast?).getD true
      ∧ c.default = (ms.filterMap Modifier.default?).getLast?
      ∧ ((∀ m ∈ ms, m.target? = none) → c.references = none)
      ∧ ∀ before table column after, ms = before ++ .references table column :: after →
          (∀ m ∈ after, m.target? = none) →
          c.references = some
            { table, column
              onDelete := (after.filterMap Modifier.onDelete?).getLast?
              onUpdate := (after.filterMap Modifier.onUpdate?).getLast? } := by
  refine ⟨(Column.bare name type).modifyAll ms, rfl, name_modifyAll _ ms, type_modifyAll _ ms,
    ?_, ?_, ?_, ?_, nullable_modifyAll _ ms, ?_, ?_, ?_⟩
  · rw [primaryKey_modifyAll, ← List.contains_iff_mem]
    rfl
  · rw [unique_modifyAll, ← List.contains_iff_mem]
    rfl
  · rw [autoincrement_modifyAll, ← List.contains_iff_mem]
    rfl
  · rw [index_modifyAll, ← List.contains_iff_mem]
    rfl
  · rw [default_modifyAll]
    exact Option.or_none
  · intro h
    rw [references_modifyAll_of_no_target h]
    rfl
  · -- Whatever the reference was before, it is replaced by one without actions.
    rintro before table column after rfl h
    rw [modifyAll_append, modifyAll_cons, references_modifyAll_of_no_target h, Column.modify,
      Option.map_some, Reference.amended, Option.or_none, Option.or_none]

/-- The first reference and the actions before the second one leave no trace. -/
example :
    ((Column.bare "owner" .integer).modifyAll
        [.onDelete .cascade, .references "users" "id", .onUpdate .restrict, .onDelete .noAction,
          .references "people" "id", .onDelete .restrict, .onDelete .setNull]).references
      = some { table := "people", column := "id", onDelete := some .setNull } := by
  decide

end SchemaSql
