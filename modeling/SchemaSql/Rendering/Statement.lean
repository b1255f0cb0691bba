/-
Statements that need no more than a few names: indexes, dropping and renaming, and the
query for a table.

Every text here ends in its terminator. Names are written as they are given. The two
renamings and the dropping of a column differ between the dialects in their keywords,
and the query for a table is another one in each.
-/
import SchemaSql.Dialect
import SchemaSql.Rendering.ConstraintText
import SchemaSql.Text.Literal

set_option autoImplicit false

namespace SchemaSql

open SchemaSql.Text

/-- The statement that creates an index of a table. -/
def Index.createStatement (table : String) (i : Index) : String :=
  "CREATE " ++ (if i.unique then "UNIQUE " else "") ++ "INDEX " ++ i.name ++ " ON " ++ table
    ++ " (" ++ listed i.columns ++ ");"

/-- The statement that drops tables. -/
def dropTablesStatement (names : List String) (ifExists cascade : Bool) : String :=
  "DROP TABLE" ++ (if ifExists then " IF EXISTS" else "") ++ " " ++ listed names
    ++ (if cascade then " CASCADE" else "") ++ ";"

namespace Dialect

/-- **The query for a table.** It yields rows if there is a table of this name. -/
def tableQuery (d : Dialect) (name : String) : String :=
  match d with
  | .postgres => "SELECT to_regclass(" ++ sqlLiteral name ++ ");"
  | .mysql => "show tables like " ++ sqlLiteral name ++ ";"
  | .sqlite =>
    "SELECT name FROM sqlite_master WHERE type='table' AND name=" ++ sqlLiteral name ++ ";"

/-- The statement that renames a table. -/
def renameTableStatement (d : Dialect) (old new : String) : String :=
  match d with
  | .mysql => "RENAME TABLE " ++ old ++ " TO " ++ new ++ ";"
  | .postgres | .sqlite => "ALTER TABLE " ++ old ++ " RENAME TO " ++ new ++ ";"

/-- The statement that renames a column. -/
def renameColumnStatement (d : Dialect) (table old new : String) : String :=
  match d with
  | .postgres => "ALTER TABLE " ++ table ++ " RENAME " ++ old ++ " TO " ++ new ++ ";"
  | .mysql | .sqlite => "ALTER TABLE " ++ table ++ " RENAME COLUMN " ++ old ++ " TO " ++ new ++ ";"

/-- The statement that drops a column. -/
def dropColumnStatement (d : Dialect) (table column : String) : String :=
  match d with
  | .sqlite => "ALTER TABLE " ++ table ++ " DROP COLUMN " ++ column ++ ";"
  | .postgres | .mysql => "ALTER TABLE " ++ table ++ " DROP " ++ column ++ ";"

/-- **Dropping a column** where the database can do it, and nothing where it cannot. -/
def dropColumn? (d : Dialect) (table column : String) (capabilities : Capabilities) :
    Option String :=
  if capabilities.nativeDropColumn then some (d.dropColumnStatement table column) else none

end Dialect

end SchemaSql
