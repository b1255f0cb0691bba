/-
Columns in a CREATE TABLE statement.

A column is written as its name, its type and a fixed order of clauses: NOT NULL,
DEFAULT, the auto-increment keyword, UNIQUE, PRIMARY KEY. A primary key written at the
column says by itself that the column is unique and not NULL, so these two clauses
are left out next to it. SQLite accepts its auto-increment keyword in one place only
and with nothing else about the column, so there such a column is a fixed text after
its name.

The clauses are a list (`Dialect.columnClauses`), each with the blank in front of it,
and the text is their concatenation.
-/
import SchemaSql.Rendering.TypeName

set_option autoImplicit false

namespace SchemaSql.Dialect

open SchemaSql.Number SchemaSql.Text

/-- **The text of a default value.** SQLite has no literals for truth values and writes numbers. -/
def defaultText : Dialect → DefaultValue → String
  | .sqlite, .boolean value => if value then "1" else "0"
  | _, value => value.sql

/-- The dialects agree on everything but truth values. -/
theorem defaultText_of_not_boolean (d : Dialect) {v : DefaultValue}
    (h : ∀ value, v ≠ .boolean value) : d.defaultText v = v.sql := by
  cases d with
  | sqlite =>
    cases v with
    | boolean value => exact absurd rfl (h value)
    | _ => rfl
  | postgres => rfl
  | mysql => rfl

theorem defaultText_integer (d : Dialect) (value : Int64) :
    d.defaultText (.integer value) = intText value.toInt :=
  d.defaultText_of_not_boolean fun _ h => DefaultValue.noConfusion h

theorem defaultText_float (d : Dialect) (value : Binary64) :
    d.defaultText (.float value) = DefaultValue.floatLayout.text value :=
  d.defaultText_of_not_boolean fun _ h => DefaultValue.noConfusion h

theorem defaultText_string (d : Dialect) (value : String) :
    d.defaultText (.string value) = sqlLiteral value :=
  d.defaultText_of_not_boolean fun _ h => DefaultValue.noConfusion h

/-- The clauses after the type of a column, in their order. `inlineKey` says whether the primary key
is written at the column. -/
def columnClauses (d : Dialect) (c : Column) (inlineKey : Bool) : List String :=
  [ if !c.nullable && !inlineKey then " NOT NULL" else "",
    match c.default with
    | some value => " DEFAULT " ++ d.defaultText value
    | none => "",
    if c.autoincrement then d.autoincrementKeyword else "",
    if c.unique && !inlineKey then " UNIQUE" else "",
    if inlineKey then " PRIMARY KEY" else "" ]

/-- A column as its clauses spell it. -/
def standardColumnText (d : Dialect) (c : Column) (inlineKey : Bool) : String :=
  c.name ++ " " ++ d.columnType c ++ String.join (d.columnClauses c inlineKey)

/-- **The text of a column.** -/
def columnText (d : Dialect) (c : Column) (inlineKey : Bool) : String :=
  match d with
  | .sqlite =>
    if c.autoincrement then c.name ++ " INTEGER PRIMARY KEY AUTOINCREMENT"
    else d.standardColumnText c inlineKey
  | .postgres | .mysql => d.standardColumnText c inlineKey

end SchemaSql.Dialect
