/-
Column types, before any dialect has given them a SQL name.

A type says what a column holds. How a dialect spells it is in
`SchemaSql.Rendering.TypeName`; the text here is the one that messages use.
-/
import SchemaSql.Number.Whole

set_option autoImplicit false

namespace SchemaSql

/-- What a column holds. -/
inductive DataType where
  | smallInteger
  | integer
  | bigInteger
  /-- A floating point number of single precision. -/
  | real
  /-- A floating point number of double precision. -/
  | double
  /-- A fixed point number with so many digits, so many of them after the point. -/
  | decimal (precision scale : UInt16)
  /-- Text of exactly this length. -/
  | char (length : UInt32)
  /-- Text of at most this length. -/
  | string (maxLength : UInt32)
  | text
  | boolean
  | date
  | time
  | timestamp
  /-- Bytes. -/
  | binary
  | json
  | uuid
  /-- A type that the caller spells; every dialect writes it as it stands. -/
  | custom (sql : String)
  deriving DecidableEq, Repr

namespace DataType

open SchemaSql.Number

/-- Whether the type is one of the three integer types. -/
def isInteger : DataType → Bool
  | .smallInteger | .integer | .bigInteger => true
  | _ => false

/-- The type in a message. -/
def description : DataType → String
  | .smallInteger => "small integer"
  | .integer => "integer"
  | .bigInteger => "big integer"
  | .real => "real"
  | .double => "double"
  | .decimal precision scale =>
    "decimal(" ++ natText precision.toNat ++ ", " ++ natText scale.toNat ++ ")"
  | .char length => "char(" ++ natText length.toNat ++ ")"
  | .string maxLength => "string(" ++ natText maxLength.toNat ++ ")"
  | .text => "text"
  | .boolean => "boolean"
  | .date => "date"
  | .time => "time"
  | .timestamp => "timestamp"
  | .binary => "binary"
  | .json => "json"
  | .uuid => "uuid"
  | .custom sql => sql

end DataType

end SchemaSql
