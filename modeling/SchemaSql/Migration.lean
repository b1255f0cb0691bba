/-
Migrations: a schema change and its reversal.

Both directions are lists of operations, and each is rendered on an empty changeset of
its own. A direction in which an operation fails has no statements at all, so that half
a migration is never taken for a whole one.
-/
import SchemaSql.Changeset.Operation

set_option autoImplicit false

namespace SchemaSql

/-- A schema change and its reversal. -/
structure Migration where
  /-- The change. -/
  up : List Operation
  /-- Its reversal. -/
  down : List Operation
  deriving DecidableEq, Repr

/-- The statements of some operations on an empty changeset. -/
def renderOperations (s : Settings) (ops : List Operation) : Except Error (List String) :=
  match (Changeset.ofSettings s).applyAll ops with
  | .ok c => .ok c.statements
  | .error e => .error e

namespace Migration

/-- **The statements of the change.** -/
def renderUp (m : Migration) (s : Settings) : Except Error (List String) :=
  renderOperations s m.up

/-- **The statements of the reversal.** -/
def renderDown (m : Migration) (s : Settings) : Except Error (List String) :=
  renderOperations s m.down

end Migration

end SchemaSql
