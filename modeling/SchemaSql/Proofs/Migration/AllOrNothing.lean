/-
A direction of a migration is rendered as a whole or not at all.

A migration stops at its first operation that fails, and whoever runs it gets either all of
its statements or an error. Both can be told from the operations one by one. Whether an
operation fails depends on the operation and the dialect alone (`Operation.error?`), neither
on the statements before it nor on the capabilities: a column that cannot be dropped is
skipped, and that is no failure. So a run that stops finds the same errors as one operation
on a fresh changeset would (`applyAll_eq`), and the first of them is its answer.

If there is none, the run that stops is the run that goes on, and its statements are known
from `SchemaSql.Proofs.Changeset.History`. They are the segments of the operations in their
order. A segment depends on what comes before it only through the capabilities, which are
those of the settings as long as no operation sets others.
-/
import SchemaSql.Migration
import SchemaSql.Proofs.Changeset.History

set_option autoImplicit false

namespace SchemaSql

/-! ## When an operation fails -/

/-- **The error of an operation**, if it fails. -/
def Operation.error? (d : Dialect) : Operation → Option Error
  | .create name steps => ((Table.ofSteps name steps).flaw? d).map .definition
  | .drop names _ _ => if names.isEmpty then some (.definition .noTables) else none
  | .raw _ | .tableQuery _ | .renameTable _ _ | .renameColumn _ _ _ | .dropColumn _ _
  | .setCapabilities _ => none

theorem Operation.added_eq_error_iff {d : Dialect} {capabilities : Capabilities} {op : Operation}
    {e : Error} : op.added d capabilities = .error e ↔ op.error? d = some e := by
  cases op with
  | create name steps =>
    rw [added, error?]
    cases (Table.ofSteps name steps).flaw? d with
    | none => simp
    | some flaw => simp
  | drop names ifExists cascade =>
    rw [added, error?]
    by_cases hnames : names.isEmpty = true
    · simp [hnames]
    · simp [hnames]
  | _ => simp [added, error?]

namespace Changeset

/-- It fails in every changeset of the dialect, or in none. -/
theorem apply_eq_error_iff {c : Changeset} {op : Operation} {e : Error} :
    c.apply op = .error e ↔ op.error? c.dialect = some e := by
  have hadded : op.added c.dialect c.capabilities = .error e ↔ op.error? c.dialect = some e :=
    Operation.added_eq_error_iff
  rw [apply_eq, ← hadded]
  cases op.added c.dialect c.capabilities with
  | error e' => simp [Except.map]
  | ok list => simp [Except.map]

theorem exists_apply_eq_ok_iff {c : Changeset} {op : Operation} :
    (∃ c', c.apply op = .ok c') ↔ op.error? c.dialect = none := by
  cases happly : c.apply op with
  | error e =>
    rw [apply_eq_error_iff.mp happly]
    simp
  | ok c' =>
    refine iff_of_true ⟨c', rfl⟩ (Option.eq_none_iff_forall_ne_some.mpr fun e he => ?_)
    rw [apply_eq_error_iff.mpr he] at happly
    cases happly

/-! ## A run that stops -/

/-- **A run that stops** answers with the first error that there is, and otherwise it is the run
that goes on. -/
theorem applyAll_eq (c : Changeset) (ops : List Operation) :
    c.applyAll ops = match ops.findSome? (Operation.error? c.dialect) with
      | some e => .error e
      | none => .ok (c.run ops) := by
  induction ops generalizing c with
  | nil => rfl
  | cons op ops ih =>
    rw [applyAll, List.findSome?_cons]
    cases happly : c.apply op with
    | error e => rw [apply_eq_error_iff.mp happly]
    | ok c' =>
      -- The rest of the run starts from another changeset, but fails where it did before.
      have hnext : c.next op = c' := by rw [next, happly]
      have hdialect : (c.next op).dialect = c.dialect := by rw [next_eq, extended]
      rw [exists_apply_eq_ok_iff.mp ⟨c', happly⟩, run_cons, hnext, ← hdialect, hnext]
      exact ih c'

/-- As long as no operation sets capabilities, each segment is what the operation leaves in a
changeset with those of the beginning. -/
theorem segments_eq_map {d : Dialect} {capabilities : Capabilities} {ops : List Operation}
    (h : ∀ op ∈ ops, op.capabilities? = none) :
    segments d capabilities ops = ops.map (segment d capabilities) := by
  induction ops with
  | nil => rfl
  | cons op ops ih =>
    rw [segments, h op List.mem_cons_self, Option.getD_none, List.map_cons,
      ih fun op' hop' => h op' (List.mem_cons_of_mem op hop')]

end Changeset

/-! ## Migrations -/

open Changeset

/-- **All or nothing.** What a direction of a migration is rendered as, said by its operations one
by one, each on a fresh changeset for the settings. There is a result exactly if all of them
succeed, and then it consists of what each of them adds in its turn. Otherwise there is the error
of the first one that fails. -/
structure IsAllOrNothing (s : Settings) (ops : List Operation)
    (result : Except Error (List String)) : Prop where
  ok_iff : ∀ list, result = .ok list ↔
    (∀ op ∈ ops, ∃ c, (ofSettings s).apply op = .ok c)
      ∧ list = (segments s.dialect s.capabilities ops).flatten
  error_iff : ∀ e, result = .error e ↔
    ∃ before op after, ops = before ++ op :: after
      ∧ (ofSettings s).apply op = .error e
      ∧ ∀ earlier ∈ before, ∃ c, (ofSettings s).apply earlier = .ok c
  /-- It does not matter that the changeset is fresh. An operation fails in its turn or not at
  all. -/
  in_turn : ∀ before op e,
    ((ofSettings s).run before).apply op = .error e ↔ (ofSettings s).apply op = .error e
  /-- What an operation adds is what it leaves in the fresh changeset, unless others have set
  capabilities before. -/
  segments_eq : (∀ op ∈ ops, op.capabilities? = none) →
    segments s.dialect s.capabilities ops = ops.map fun op => ((ofSettings s).next op).statements
  /-- A column that cannot be dropped adds nothing. -/
  skipped : ∀ before table column after, ops = before ++ .dropColumn table column :: after →
    (inForce s.capabilities before).nativeDropColumn = false →
    (segments s.dialect s.capabilities ops)[before.length]? = some []

theorem renderOperations_eq (s : Settings) (ops : List Operation) :
    renderOperations s ops = match ops.findSome? (Operation.error? s.dialect) with
      | some e => .error e
      | none => .ok (segments s.dialect s.capabilities ops).flatten := by
  have hrun : ((ofSettings s).run ops).statements
      = (segments s.dialect s.capabilities ops).flatten := by
    rw [run_eq]
    rfl
  rw [renderOperations, applyAll_eq, dialect_ofSettings, ← hrun]
  cases ops.findSome? (Operation.error? s.dialect) <;> rfl

theorem isAllOrNothing_renderOperations (s : Settings) (ops : List Operation) :
    IsAllOrNothing s ops (renderOperations s ops) where
  ok_iff list := by
    simp only [exists_apply_eq_ok_iff, dialect_ofSettings, ← List.findSome?_eq_none_iff]
    rw [renderOperations_eq]
    cases ops.findSome? (Operation.error? s.dialect) with
    | some e => simp
    | none => simp [eq_comm]
  error_iff e := by
    have hfirst : renderOperations s ops = .error e
        ↔ ops.findSome? (Operation.error? s.dialect) = some e := by
      rw [renderOperations_eq]
      cases ops.findSome? (Operation.error? s.dialect) with
      | some e' => simp
      | none => simp
    rw [hfirst, List.findSome?_eq_some_iff]
    simp only [exists_apply_eq_ok_iff, apply_eq_error_iff, dialect_ofSettings]
  in_turn before op e := by
    have hdialect : ((ofSettings s).run before).dialect = (ofSettings s).dialect := by rw [run_eq]
    rw [apply_eq_error_iff, apply_eq_error_iff, hdialect]
  segments_eq h := segments_eq_map h
  skipped := by
    rintro before table column after rfl hnative
    have hadded : (Operation.dropColumn table column).added s.dialect
        (inForce s.capabilities before) = .ok [] := by
      rw [Operation.added, Dialect.dropColumn?, hnative]
      rfl
    rw [getElem?_segments, segment_of_added_ok hadded]

/-- **Both directions of a migration are rendered as a whole or not at all**, and neither depends on
the other. -/
theorem Migration.renders_all_or_nothing (m : Migration) (s : Settings) :
    IsAllOrNothing s m.up (m.renderUp s) ∧ IsAllOrNothing s m.down (m.renderDown s)
      ∧ ∀ other, ({ m with down := other }).renderUp s = m.renderUp s
        ∧ ({ m with up := other }).renderDown s = m.renderDown s :=
  ⟨isAllOrNothing_renderOperations s m.up, isAllOrNothing_renderOperations s m.down,
    fun _ => ⟨rfl, rfl⟩⟩

/-- The change fails at its second operation, and nothing is left of the first. In the reversal a
column stays where it is. -/
example :
    let m : Migration :=
      { up := [.raw "PRAGMA foreign_keys = ON", .drop [] true false, .create "users" []]
        down := [.dropColumn "users" "age", .renameTable "people" "users"] }
    m.renderUp { dialect := .sqlite } = .error (.definition .noTables)
      ∧ m.renderDown { dialect := .sqlite } = .ok ["ALTER TABLE people RENAME TO users;"] :=
  ⟨rfl, rfl⟩

end SchemaSql
