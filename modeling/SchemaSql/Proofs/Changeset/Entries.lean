/-
How many statements a run makes, and how they end.

An operation that succeeds adds a number of statements that can be told without looking at
any text. Caller-written SQL, dropping tables and renaming add one each, creating a table adds
one for the table and one for each of its indexes, and dropping a column adds one where the
database can do it (`Operation.entries`). The statements of a run are those of its operations
one after the other, so their number is the sum over the operations that succeed, each taken
with the capabilities that it finds.

What a caller writes has no part in the number. A table goes through a script, which is cut at
semicolons, but it is written so that it comes out of the script as it went in. Everything else
is added as it is.

All of it is terminated. The library puts a terminator at the end of what it writes itself
(`eq_append_of_mem_added`), and caller-written SQL gets one if it has none.
-/
import Mathlib.Algebra.GroupWithZero.Nat
import SchemaSql.Proofs.Changeset.History

set_option autoImplicit false

namespace SchemaSql

open SchemaSql.Text

/-! ## How statements end -/

/-- **A terminated statement** ends in a semicolon, blanks at its end aside. -/
def IsTerminated (s : String) : Prop := (trimEnd s.toList).getLast? = some ';'

instance : DecidablePred IsTerminated := fun s =>
  inferInstanceAs (Decidable ((trimEnd s.toList).getLast? = some ';'))

/-- Nothing is cut behind a terminator. -/
theorem trimEnd_append_terminator (front : String) :
    trimEnd (front ++ ";").toList = (front ++ ";").toList := by
  rw [String.toList_append]
  exact trimEnd_concat_of_not_blank front.toList (by decide)

theorem isTerminated_append_terminator (front : String) : IsTerminated (front ++ ";") := by
  rw [IsTerminated, trimEnd_append_terminator, String.toList_append]
  exact List.getLast?_concat

theorem isTerminated_terminated (sql : String) : IsTerminated (terminated sql) := by
  rw [terminated]
  by_cases hlast : (trimEnd sql.toList).getLast? = some ';'
  · rw [if_pos hlast]
    exact hlast
  · rw [if_neg hlast]
    exact isTerminated_append_terminator sql

/-- The last character of what is written for a table is the terminator. -/
theorem Table.eq_append_of_mem_statements {d : Dialect} {t : Table} {s : String}
    (h : s ∈ t.statements d) : ∃ front, s = front ++ ";" := by
  have hend : ∀ inner : String, inner ++ ");" = inner ++ ")" ++ ";" := by
    intro inner
    rw [String.append_assoc]
    rfl
  rw [statements, indexStatements, List.mem_cons, List.mem_map] at h
  rcases h with rfl | ⟨i, -, rfl⟩
  · exact ⟨_, hend _⟩
  · exact ⟨_, hend _⟩

/-- **What an operation adds ends in the terminator**, if a caller has not written it. -/
theorem Operation.eq_append_of_mem_added {d : Dialect} {capabilities : Capabilities}
    {op : Operation} {list : List String} {s : String}
    (hadded : op.added d capabilities = .ok list) (hs : s ∈ list) :
    (∃ sql, op = .raw sql ∧ s = terminated sql) ∨ ∃ front, s = front ++ ";" := by
  cases op with
  | create name steps =>
    rw [added_create_eq_ok hadded] at hs
    exact .inr (Table.eq_append_of_mem_statements hs)
  | raw sql =>
    cases hadded
    exact .inl ⟨sql, rfl, List.mem_singleton.mp hs⟩
  | drop names ifExists cascade =>
    rw [added_drop_eq_ok hadded] at hs
    exact .inr ⟨_, List.mem_singleton.mp hs⟩
  | renameTable old new =>
    cases hadded
    cases d <;> exact .inr ⟨_, List.mem_singleton.mp hs⟩
  | renameColumn table old new =>
    cases hadded
    cases d <;> exact .inr ⟨_, List.mem_singleton.mp hs⟩
  | dropColumn table column =>
    cases hadded
    rw [Dialect.dropColumn?] at hs
    by_cases hnative : capabilities.nativeDropColumn = true
    · rw [if_pos hnative] at hs
      cases d <;> exact .inr ⟨_, List.mem_singleton.mp hs⟩
    · rw [if_neg hnative] at hs
      cases hs
  | tableQuery name =>
    cases hadded
    cases hs
  | setCapabilities set =>
    cases hadded
    cases hs

/-! ## How many there are -/

/-- **The number of statements** that an operation adds if it succeeds. -/
def Operation.entries (capabilities : Capabilities) : Operation → Nat
  | .create name steps =>
    let table := Table.ofSteps name steps
    1 + table.columns.countP (·.index) + table.indexes.length
  | .raw _ | .drop _ _ _ | .renameTable _ _ | .renameColumn _ _ _ => 1
  | .dropColumn _ _ => if capabilities.nativeDropColumn then 1 else 0
  | .tableQuery _ | .setCapabilities _ => 0

theorem Operation.length_of_added {d : Dialect} {capabilities : Capabilities} {op : Operation}
    {list : List String} (hadded : op.added d capabilities = .ok list) :
    list.length = op.entries capabilities := by
  cases op with
  | create name steps =>
    rw [added_create_eq_ok hadded]
    exact Table.length_statements d _
  | drop names ifExists cascade =>
    rw [added_drop_eq_ok hadded]
    rfl
  | dropColumn table column =>
    cases hadded
    rw [Dialect.dropColumn?, entries]
    by_cases hnative : capabilities.nativeDropColumn = true
    · rw [if_pos hnative, if_pos hnative]
      rfl
    · rw [if_neg hnative, if_neg hnative]
      rfl
  | _ =>
    cases hadded
    rfl

namespace Changeset

theorem isOk_apply (c : Changeset) (op : Operation) :
    (c.apply op).isOk = (op.added c.dialect c.capabilities).isOk := by
  rw [apply_eq]
  cases op.added c.dialect c.capabilities <;> rfl

/-- **One operation** makes its statements if it succeeds, and none otherwise. -/
theorem length_segment (c : Changeset) (op : Operation) :
    (segment c.dialect c.capabilities op).length
      = if (c.apply op).isOk then op.entries c.capabilities else 0 := by
  rw [isOk_apply]
  cases hadded : op.added c.dialect c.capabilities with
  | error e =>
    rw [segment_of_added_error hadded]
    rfl
  | ok list =>
    rw [segment_of_added_ok hadded, Operation.length_of_added hadded]
    rfl

/-- The operations of a run, each with the changeset that it finds. -/
def turns (c : Changeset) : List Operation → List (Changeset × Operation)
  | [] => []
  | op :: ops => (c, op) :: (c.next op).turns ops

/-- **A run** makes the statements of its operations. -/
theorem length_run (c : Changeset) (ops : List Operation) :
    (c.run ops).statements.length = c.statements.length
      + (((c.turns ops).filter fun turn => (turn.1.apply turn.2).isOk).map fun turn =>
          turn.2.entries turn.1.capabilities).sum := by
  induction ops generalizing c with
  | nil => rfl
  | cons op ops ih =>
    have hnext : (c.next op).statements.length
        = c.statements.length + if (c.apply op).isOk then op.entries c.capabilities else 0 := by
      rw [next_eq, extended, List.length_append, length_segment]
    -- The first operation is counted here, the others from the changeset that it leaves.
    rw [run_cons, ih, hnext, turns, List.filter_cons]
    by_cases hok : (c.apply op).isOk = true
    · rw [if_pos hok, if_pos hok, List.map_cons, List.sum_cons, Nat.add_assoc]
    · rw [if_neg hok, if_neg hok, Nat.add_zero]

theorem isTerminated_of_mem_segments {d : Dialect} {capabilities : Capabilities}
    {ops : List Operation} {s : String} (h : s ∈ (segments d capabilities ops).flatten) :
    IsTerminated s := by
  obtain ⟨op, -, now, list, hadded, hs⟩ := exists_added_of_mem_segments h
  rcases Operation.eq_append_of_mem_added hadded hs with ⟨sql, -, rfl⟩ | ⟨front, rfl⟩
  · exact isTerminated_terminated sql
  · exact isTerminated_append_terminator front

/-- **The statements of a changeset are terminated, and their number does not depend on texts.**
There are as many as the operations that succeed make, each with the capabilities in force at its
turn. They stand where their operation stands in the run, and they are what the operation adds,
whatever semicolons and backslashes are in its texts. -/
theorem run_makes_entries (d : Dialect) (capabilities : Capabilities) (ops : List Operation) :
    let c := blank d capabilities
    (∀ s ∈ (c.run ops).statements, IsTerminated s)
      ∧ (c.run ops).statements.length
          = (((c.turns ops).filter fun turn => (turn.1.apply turn.2).isOk).map fun turn =>
              turn.2.entries turn.1.capabilities).sum
      ∧ ∀ before op after, ops = before ++ op :: after →
          let now := c.run before
          ∃ made later, (c.run ops).statements = now.statements ++ made ++ later
            ∧ made.length = (if (now.apply op).isOk then op.entries now.capabilities else 0)
            ∧ ∀ list, op.added d now.capabilities = .ok list → made = list := by
  intro c
  refine ⟨?_, ?_, ?_⟩
  · intro s hs
    rw [run_eq] at hs
    exact isTerminated_of_mem_segments hs
  · -- An empty changeset has no statements to count.
    rw [length_run]
    exact Nat.zero_add _
  · rintro before op after rfl
    intro now
    have hdialect : (c.run before).dialect = d := by
      rw [run_eq]
      rfl
    refine ⟨segment now.dialect now.capabilities op,
      (segments d (now.next op).capabilities after).flatten, ?_, length_segment now op, ?_⟩
    · rw [run_append, run_cons, run_eq (now.next op), next_eq, extended, hdialect]
    · intro list hadded
      rw [hdialect, segment_of_added_ok hadded]

end Changeset

end SchemaSql
