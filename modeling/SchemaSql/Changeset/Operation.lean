/-
Operations on a changeset as data.

Naming the operations makes a whole run of them a value: a list. There are two ways to
go through such a list. `Changeset.history` goes on after a failure, which leaves the
changeset as it was, and keeps what every operation replied. `Changeset.applyAll` stops
at the first failure and then has nothing to show but its error.
-/
import SchemaSql.Changeset

set_option autoImplicit false

namespace SchemaSql

/-- One operation on a changeset. -/
inductive Operation where
  /-- Creates the table that some steps describe. -/
  | create (name : String) (steps : List Table.Step)
  /-- Adds caller-written SQL. -/
  | raw (sql : String)
  | drop (names : List String) (ifExists cascade : Bool)
  /-- Asks for the query for a table. -/
  | tableQuery (name : String)
  | renameTable (old new : String)
  | renameColumn (table old new : String)
  | dropColumn (table column : String)
  /-- Replaces the capabilities for the operations to come. -/
  | setCapabilities (capabilities : Capabilities)
  deriving DecidableEq, Repr

/-- What an operation replies. -/
inductive Reply where
  | done
  | query (sql : String)
  | failed (error : Error)
  deriving DecidableEq, Repr

namespace Changeset

/-- **One operation.** -/
def apply (c : Changeset) : Operation → Except Error Changeset
  | .create name steps => c.create (Table.ofSteps name steps)
  | .raw sql => .ok (c.raw sql)
  | .drop names ifExists cascade => c.drop names ifExists cascade
  | .tableQuery _ => .ok c
  | .renameTable old new => .ok (c.renameTable old new)
  | .renameColumn table old new => .ok (c.renameColumn table old new)
  | .dropColumn table column => .ok (c.dropColumn table column)
  | .setCapabilities capabilities => .ok { c with capabilities }

/-- The changeset after an operation, unchanged if it fails. -/
def next (c : Changeset) (op : Operation) : Changeset :=
  match c.apply op with
  | .ok c' => c'
  | .error _ => c

/-- What an operation replies. -/
def reply (c : Changeset) (op : Operation) : Reply :=
  match c.apply op, op with
  | .error e, _ => .failed e
  | .ok _, .tableQuery name => .query (c.tableQuery name)
  | .ok _, _ => .done

/-- The changeset after operations of which any may fail. -/
def run (c : Changeset) (ops : List Operation) : Changeset := ops.foldl next c

/-- **A run with its replies.** Every operation's reply, with the changeset after it. -/
def history (c : Changeset) : List Operation → List (Reply × Changeset)
  | [] => []
  | op :: ops => (c.reply op, c.next op) :: (c.next op).history ops

/-- **A run that stops** at the first failure. -/
def applyAll (c : Changeset) : List Operation → Except Error Changeset
  | [] => .ok c
  | op :: ops =>
    match c.apply op with
    | .ok c' => c'.applyAll ops
    | .error e => .error e

@[simp] theorem run_nil (c : Changeset) : c.run [] = c := rfl

@[simp] theorem run_cons (c : Changeset) (op : Operation) (ops : List Operation) :
    c.run (op :: ops) = (c.next op).run ops := rfl

theorem run_append (c : Changeset) (ops more : List Operation) :
    c.run (ops ++ more) = (c.run ops).run more := by
  simp [run]

end Changeset

end SchemaSql
