/-
Constraints in a CREATE TABLE statement. They read the same in every dialect.
-/
import SchemaSql.Constraint

set_option autoImplicit false

namespace SchemaSql

/-- Names with a comma and a blank between two of them. -/
def listed (names : List String) : String := ", ".intercalate names

/-- A clause for an action, if there is one. -/
def actionClause (keyword : String) : Option ReferentialAction → String
  | some action => " ON " ++ keyword ++ " " ++ action.sql
  | none => ""

/-- The text of a foreign key. -/
def ForeignKey.sql (key : ForeignKey) : String :=
  "FOREIGN KEY (" ++ listed key.columns ++ ") REFERENCES " ++ key.table ++ "("
    ++ listed key.references ++ ")" ++ actionClause "DELETE" key.onDelete
    ++ actionClause "UPDATE" key.onUpdate

/-- The text of a rule. -/
def Rule.sql : Rule → String
  | .primaryKey columns => "PRIMARY KEY (" ++ listed columns ++ ")"
  | .unique columns => "UNIQUE (" ++ listed columns ++ ")"
  | .foreignKey key => key.sql
  | .check expression => "CHECK (" ++ expression ++ ")"

/-- **The text of a constraint**, behind its name if it has one. -/
def Constraint.sql (c : Constraint) : String :=
  match c.name with
  | some name => "CONSTRAINT " ++ name ++ " " ++ c.rule.sql
  | none => c.rule.sql

end SchemaSql
