/-
The order of steps of different kinds.

A description of a table is one list of steps, but the table keeps three lists: columns,
constraints and indexes. A step adds to one of them and looks at none. So what the table holds
in the end can be read off the steps of each kind alone (`ofSteps_eq`), and how the kinds are
mixed leaves no trace. A constraint may come before the columns that it names.

Only the order within a kind is left. It is the order in which the columns, the constraints
and the indexes are written.
-/
import SchemaSql.Proofs.Table.Script
import SchemaSql.Table.Step

set_option autoImplicit false

namespace SchemaSql.Table

/-! ## What a step adds -/

/-- What a step is about. -/
inductive Step.Kind where
  | column
  | constraint
  | index
  | existence
  deriving DecidableEq, Repr

def Step.kind : Step → Step.Kind
  | .column _ _ _ | .timestamps => .column
  | .constraint _ => .constraint
  | .index _ _ => .index
  | .ifNotExists => .existence

def Step.columns : Step → List Column
  | .column name type modifiers => [(Column.bare name type).modifyAll modifiers]
  | .timestamps => [timeColumn "created_at", timeColumn "updated_at"]
  | .constraint _ | .index _ _ | .ifNotExists => []

def Step.constraints : Step → List Constraint
  | .constraint k => [k]
  | .column _ _ _ | .timestamps | .index _ _ | .ifNotExists => []

/-- The name of the table is part of the name of an index. -/
def Step.indexes (table : String) : Step → List Index
  | .index columns unique => [Index.forTable table columns unique]
  | .column _ _ _ | .timestamps | .constraint _ | .ifNotExists => []

/-- **A step** adds to each list what it has for it, whatever the table holds already. -/
theorem build_eq (t : Table) (s : Step) :
    t.build s =
      { name := t.name
        columns := t.columns ++ s.columns
        constraints := t.constraints ++ s.constraints
        indexes := t.indexes ++ s.indexes t.name
        ifNotExists := t.ifNotExists || .ifNotExists == s } := by
  cases s <;> simp [build, Step.columns, Step.constraints, Step.indexes]

/-- **Steps** add what each of them adds, in their order. -/
theorem buildAll_eq (t : Table) (steps : List Step) :
    t.buildAll steps =
      { name := t.name
        columns := t.columns ++ steps.flatMap Step.columns
        constraints := t.constraints ++ steps.flatMap Step.constraints
        indexes := t.indexes ++ steps.flatMap (Step.indexes t.name)
        ifNotExists := t.ifNotExists || steps.contains .ifNotExists } := by
  induction steps generalizing t with
  | nil => simp
  | cons s steps ih =>
    rw [buildAll_cons, ih, build_eq]
    simp only [List.flatMap_cons, List.append_assoc, List.contains_cons, Bool.or_assoc]

/-- **The table that some steps describe**, list by list. -/
theorem ofSteps_eq (name : String) (steps : List Step) :
    ofSteps name steps =
      { name
        columns := steps.flatMap Step.columns
        constraints := steps.flatMap Step.constraints
        indexes := steps.flatMap (Step.indexes name)
        ifNotExists := steps.contains .ifNotExists } := by
  rw [ofSteps, buildAll_eq]
  simp only [empty, List.nil_append, Bool.false_or]

/-! ## Steps of one kind -/

/-- The steps of a kind, in their order. -/
def Step.ofKind (kind : Step.Kind) (steps : List Step) : List Step :=
  steps.filter (·.kind = kind)

/-- What only the steps of one kind add is not changed by leaving out the others. -/
theorem Step.flatMap_ofKind {α : Type} {kind : Step.Kind} {adds : Step → List α}
    (h : ∀ s : Step, s.kind ≠ kind → adds s = []) (steps : List Step) :
    (Step.ofKind kind steps).flatMap adds = steps.flatMap adds := by
  induction steps with
  | nil => rfl
  | cons s steps ih =>
    unfold Step.ofKind at ih ⊢
    rw [List.filter_cons, List.flatMap_cons]
    by_cases hkind : s.kind = kind
    · rw [if_pos (decide_eq_true hkind), List.flatMap_cons, ih]
    · rw [if_neg (by simpa using hkind), ih, h s hkind, List.nil_append]

theorem Step.columns_eq_nil {s : Step} (h : s.kind ≠ .column) : s.columns = [] := by
  cases s with
  | column name type modifiers => exact absurd rfl h
  | timestamps => exact absurd rfl h
  | _ => rfl

theorem Step.constraints_eq_nil {s : Step} (h : s.kind ≠ .constraint) : s.constraints = [] := by
  cases s with
  | constraint k => exact absurd rfl h
  | _ => rfl

theorem Step.indexes_eq_nil {s : Step} (table : String) (h : s.kind ≠ .index) :
    s.indexes table = [] := by
  cases s with
  | index columns unique => exact absurd rfl h
  | _ => rfl

/-- **Descriptions that differ in how the kinds are mixed.** Each kind has the same steps in the
same order. That the table may exist already is said in both or in neither, no matter how often. -/
structure Step.SameByKind (steps steps' : List Step) : Prop where
  columns : Step.ofKind .column steps = Step.ofKind .column steps'
  constraints : Step.ofKind .constraint steps = Step.ofKind .constraint steps'
  indexes : Step.ofKind .index steps = Step.ofKind .index steps'
  existence : .ifNotExists ∈ steps ↔ .ifNotExists ∈ steps'

/-- They describe the same table. -/
theorem ofSteps_congr (name : String) {steps steps' : List Step}
    (h : Step.SameByKind steps steps') : ofSteps name steps = ofSteps name steps' := by
  have hcolumns : steps.flatMap Step.columns = steps'.flatMap Step.columns := by
    rw [← Step.flatMap_ofKind fun _ => Step.columns_eq_nil, h.columns,
      Step.flatMap_ofKind fun _ => Step.columns_eq_nil]
  have hconstraints : steps.flatMap Step.constraints = steps'.flatMap Step.constraints := by
    rw [← Step.flatMap_ofKind fun _ => Step.constraints_eq_nil, h.constraints,
      Step.flatMap_ofKind fun _ => Step.constraints_eq_nil]
  have hindexes : steps.flatMap (Step.indexes name) = steps'.flatMap (Step.indexes name) := by
    rw [← Step.flatMap_ofKind fun _ => Step.indexes_eq_nil name, h.indexes,
      Step.flatMap_ofKind fun _ => Step.indexes_eq_nil name]
  have hexistence : steps.contains .ifNotExists = steps'.contains .ifNotExists := by
    rw [Bool.eq_iff_iff, List.contains_iff_mem, List.contains_iff_mem]
    exact h.existence
  rw [ofSteps_eq, ofSteps_eq, hcolumns, hconstraints, hindexes, hexistence]

/-- **How columns, constraints and indexes are mixed in a description does not matter.** With the
same steps of each kind the table is written alike in every dialect, or refused with the same
error. -/
theorem script_of_same_steps_by_kind (d : Dialect) (name : String) {steps steps' : List Step}
    (h : Step.SameByKind steps steps') :
    (ofSteps name steps).script d = (ofSteps name steps').script d := by
  rw [ofSteps_congr name h]

/-- An index and a foreign key come before their columns, and the condition is said twice. -/
theorem mixed_bookings_are_written_as_sorted :
    let owner : Step := .column "owner" .integer [.notNull]
    let slot : Step := .column "slot" .integer [.index]
    let user : Step := .foreign ["owner"] "users" ["id"] [.onDelete .cascade]
    let once : Step := .index ["owner", "slot"] true
    let mixed := [once, .ifNotExists, user, owner, .check "slot > 0", .ifNotExists, slot]
    let sorted := [owner, slot, user, .check "slot > 0", once, .ifNotExists]
    Step.SameByKind mixed sorted
      ∧ (ofSteps "bookings" mixed).script .mysql = (ofSteps "bookings" sorted).script .mysql
      ∧ (ofSteps "bookings" mixed).script .mysql = .ok (Script.ofStatements
        ["CREATE TABLE IF NOT EXISTS bookings (owner INTEGER NOT NULL, slot INTEGER, "
            ++ "FOREIGN KEY (owner) REFERENCES users(id) ON DELETE CASCADE, CHECK (slot > 0));",
          "CREATE INDEX bookings_slot_index ON bookings (slot);",
          "CREATE UNIQUE INDEX bookings_owner_slot_unique ON bookings (owner, slot);"]) := by
  intro owner slot user once mixed sorted
  have hsame : Step.SameByKind mixed sorted :=
    { columns := by decide, constraints := by decide, indexes := by decide, existence := by decide }
  exact ⟨hsame, script_of_same_steps_by_kind .mysql "bookings" hsame,
    script_eq_ok_iff.mpr ⟨by decide, congrArg Script.ofStatements (by decide +kernel)⟩⟩

end SchemaSql.Table
