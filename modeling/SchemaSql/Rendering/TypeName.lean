/-
The SQL names of column types.

Each dialect has its own table. SQLite goes by the affinity of a type and so needs
few names: lengths and precisions are dropped, and what has no affinity of its own is
stored as text or as an integer. Where the database generates the values, Postgres
writes a serial type in the place of the integer type.
-/
import SchemaSql.Column
import SchemaSql.Dialect

set_option autoImplicit false

namespace SchemaSql.Dialect

open SchemaSql.Number

/-- A type name with one length. -/
def sized (name : String) (length : UInt32) : String :=
  name ++ "(" ++ natText length.toNat ++ ")"

/-- A fixed point type with its digits. -/
def sizedDecimal (precision scale : UInt16) : String :=
  "DECIMAL(" ++ natText precision.toNat ++ ", " ++ natText scale.toNat ++ ")"

/-- The type names of Postgres. -/
def postgresTypeName : DataType → String
  | .smallInteger => "SMALLINT"
  | .integer => "INTEGER"
  | .bigInteger => "BIGINT"
  | .real => "REAL"
  | .double => "DOUBLE PRECISION"
  | .decimal precision scale => sizedDecimal precision scale
  | .char length => sized "CHAR" length
  | .string maxLength => sized "VARCHAR" maxLength
  | .text => "TEXT"
  | .boolean => "BOOLEAN"
  | .date => "DATE"
  | .time => "TIME"
  | .timestamp => "TIMESTAMP"
  | .binary => "BYTEA"
  | .json => "JSONB"
  | .uuid => "UUID"
  | .custom sql => sql

/-- The type names of MySQL. -/
def mysqlTypeName : DataType → String
  | .smallInteger => "SMALLINT"
  | .integer => "INTEGER"
  | .bigInteger => "BIGINT"
  | .real => "FLOAT"
  | .double => "DOUBLE"
  | .decimal precision scale => sizedDecimal precision scale
  | .char length => sized "CHAR" length
  | .string maxLength => sized "VARCHAR" maxLength
  | .text => "TEXT"
  | .boolean => "BOOLEAN"
  | .date => "DATE"
  | .time => "TIME"
  | .timestamp => "TIMESTAMP"
  | .binary => "BLOB"
  | .json => "JSON"
  | .uuid => "CHAR(36)"
  | .custom sql => sql

/-- The type names of SQLite, by affinity. -/
def sqliteTypeName : DataType → String
  | .smallInteger | .integer | .bigInteger | .boolean => "INTEGER"
  | .real | .double => "REAL"
  | .decimal _ _ => "NUMERIC"
  | .char _ | .string _ | .text | .date | .time | .timestamp | .json | .uuid => "TEXT"
  | .binary => "BLOB"
  | .custom sql => sql

/-- **The name of a type.** -/
def typeName : Dialect → DataType → String
  | .postgres => postgresTypeName
  | .mysql => mysqlTypeName
  | .sqlite => sqliteTypeName

/-- The Postgres type that generates integers of a width, for the integer types. -/
def serialTypeName? : DataType → Option String
  | .smallInteger => some "SMALLSERIAL"
  | .integer => some "SERIAL"
  | .bigInteger => some "BIGSERIAL"
  | _ => none

/-- **The type written for a column**: its type's name, or on Postgres the serial type that
generates its values. -/
def columnType (d : Dialect) (c : Column) : String :=
  match d with
  | .postgres =>
    if c.autoincrement then (serialTypeName? c.type).getD (d.typeName c.type) else d.typeName c.type
  | .mysql | .sqlite => d.typeName c.type

end SchemaSql.Dialect
