/-
Default values of columns.

A default is a value, written as a SQL literal of its kind, or an expression of the
caller, written as it stands. The literals here are the neutral ones; a dialect that
has no literal of a kind writes another (`SchemaSql.Rendering.Column`).
-/
import SchemaSql.Number.Layout
import SchemaSql.Text.Literal

set_option autoImplicit false

namespace SchemaSql

open SchemaSql.Number SchemaSql.Text

/-- What a column holds when a row gives it no value. -/
inductive DefaultValue where
  | null
  | boolean (value : Bool)
  | integer (value : Int64)
  | float (value : Binary64)
  | string (value : String)
  /-- A SQL expression, written as it stands. -/
  | expression (sql : String)
  deriving DecidableEq, Repr

namespace DefaultValue

/-- **Floating point defaults** are written with all their digits and never with an exponent; a
whole number has no point. -/
def floatLayout : Layout where
  tie := .upward
  isPositional _ := true
  wholeEnding := []
  exponentPlus := []
  nan := ['N', 'a', 'N']
  infinity := ['i', 'n', 'f']

/-- **The neutral text of a default.** -/
def sql : DefaultValue → String
  | .null => "NULL"
  | .boolean true => "TRUE"
  | .boolean false => "FALSE"
  | .integer value => intText value.toInt
  | .float value => floatLayout.text value
  | .string value => sqlLiteral value
  | .expression sql => sql

/-- Zero keeps its sign, and a half is told from a whole number by its point. -/
example : DefaultValue.sql (.float ⟨0x8000000000000000⟩) = "-0"
    ∧ DefaultValue.sql (.float ⟨0x3ff8000000000000⟩) = "1.5"
    ∧ DefaultValue.sql (.float ⟨0x4008000000000000⟩) = "3" := by decide +kernel

/-- Of two decimals that are equally near, the larger one is written. -/
example : DefaultValue.sql (.float ⟨0x3e60000000000000⟩) = "0.000000029802322387695313" := by
  decide +kernel

end DefaultValue

end SchemaSql
