/-
Settings: which dialect to write, and what to assume of the database.

Both can be left open. The dialect is Postgres then, and the assumption is the one
that the dialect makes.
-/
import SchemaSql.Dialect

set_option autoImplicit false

namespace SchemaSql

/-- The choices a caller makes before a schema change is written. -/
structure Settings where
  dialect : Dialect := default
  /-- Whether columns can be dropped, where that is known. -/
  nativeDropColumn : Option Bool := none
  deriving DecidableEq, Repr, Inhabited

/-- **The capabilities in force**: what is known, and otherwise what the dialect assumes. -/
def Settings.capabilities (s : Settings) : Capabilities :=
  match s.nativeDropColumn with
  | some known => ⟨known⟩
  | none => s.dialect.defaultCapabilities

end SchemaSql
