/-
The elements of a table as fragments.

An element of a CREATE TABLE statement is a column or a constraint, and its text mixes what
the caller wrote with what is written around it. Here each element is taken apart into
fragments that say which is which. Names, custom types, default expressions, the
expressions of checks and spelled actions are the caller's, and so is a string default in
its quotes. Everything else is written by this library, numbers included.

That nothing is missing and nothing is added is `Element.join_fragments`. The fragments of
an element are its text.
-/
import SchemaSql.Proofs.Number.Numeral
import SchemaSql.Proofs.Sql.Fragment
import SchemaSql.Table.Statement

set_option autoImplicit false

namespace SchemaSql

open SchemaSql.Text

/-! ## Columns -/

namespace Dialect

def typeFragment (d : Dialect) (c : Column) : Fragment :=
  match c.type with
  | .custom sql => .given sql
  | _ => .fixed (d.columnType c)

def defaultFragment (d : Dialect) : DefaultValue → Fragment
  | .string value => .given (sqlLiteral value)
  | .expression sql => .given sql
  | value => .fixed (d.defaultText value)

def defaultFragments (d : Dialect) : Option DefaultValue → List Fragment
  | some value => [.fixed " DEFAULT ", d.defaultFragment value]
  | none => []

/-- A column up to the clause for its primary key. -/
def bodyFragments (d : Dialect) (c : Column) (inlineKey : Bool) : List Fragment :=
  [.given c.name, .fixed " ", d.typeFragment c,
    .fixed (if !c.nullable && !inlineKey then " NOT NULL" else "")]
  ++ d.defaultFragments c.default
  ++ [.fixed (if c.autoincrement then d.autoincrementKeyword else ""),
    .fixed (if c.unique && !inlineKey then " UNIQUE" else "")]

def standardFragments (d : Dialect) (c : Column) (inlineKey : Bool) : List Fragment :=
  d.bodyFragments c inlineKey ++ [.fixed (if inlineKey then " PRIMARY KEY" else "")]

/-- **The fragments of a column.** -/
def columnFragments (d : Dialect) (c : Column) (inlineKey : Bool) : List Fragment :=
  match d with
  | .sqlite =>
    if c.autoincrement then [.given c.name, .fixed " INTEGER PRIMARY KEY AUTOINCREMENT"]
    else d.standardFragments c inlineKey
  | .postgres | .mysql => d.standardFragments c inlineKey

theorem text_typeFragment (d : Dialect) (c : Column) :
    (d.typeFragment c).text = d.columnType c := by
  rw [typeFragment]
  cases htype : c.type with
  | custom sql =>
    -- No dialect has a name of its own for such a type, nor a serial type.
    have hserial : serialTypeName? (.custom sql) = none := rfl
    cases d with
    | postgres =>
      rw [columnType, htype, hserial, Option.getD_none, ite_self]
      rfl
    | mysql =>
      rw [columnType, htype]
      rfl
    | sqlite =>
      rw [columnType, htype]
      rfl
  | _ => rfl

theorem text_defaultFragment (d : Dialect) (value : DefaultValue) :
    (d.defaultFragment value).text = d.defaultText value := by
  cases value with
  | string value => cases d <;> rfl
  | expression sql => cases d <;> rfl
  | _ => rfl

theorem join_standardFragments (d : Dialect) (c : Column) (inlineKey : Bool) :
    Fragment.join (d.standardFragments c inlineKey) = d.standardColumnText c inlineKey := by
  rw [standardFragments, bodyFragments, standardColumnText, columnClauses]
  -- Without a default there is an empty text among the clauses, but no fragment.
  cases c.default with
  | none =>
    rw [defaultFragments]
    simp only [Fragment.join_append, Fragment.join_cons, Fragment.join_nil, Fragment.text_fixed,
      Fragment.text_given, text_typeFragment, String.join_cons, String.join_nil,
      String.append_empty, String.empty_append, String.append_assoc]
  | some value =>
    rw [defaultFragments]
    simp only [Fragment.join_append, Fragment.join_cons, Fragment.join_nil, Fragment.text_fixed,
      Fragment.text_given, text_typeFragment, text_defaultFragment, String.join_cons,
      String.join_nil, String.append_empty, String.append_assoc]

theorem join_columnFragments (d : Dialect) (c : Column) (inlineKey : Bool) :
    Fragment.join (d.columnFragments c inlineKey) = d.columnText c inlineKey := by
  have hstandard := d.join_standardFragments c inlineKey
  cases d with
  | postgres => exact hstandard
  | mysql => exact hstandard
  | sqlite =>
    rw [columnFragments, columnText]
    by_cases hauto : c.autoincrement = true
    · rw [if_pos hauto, if_pos hauto]
      simp only [Fragment.join_cons, Fragment.join_nil, Fragment.text_fixed, Fragment.text_given,
        String.append_empty]
    · rwa [if_neg hauto, if_neg hauto]

end Dialect

/-! ## Constraints -/

/-- Names of the caller, with what is written between them. -/
def nameFragments : List String → List Fragment
  | [] => []
  | [name] => [.given name]
  | name :: names => .given name :: .fixed ", " :: nameFragments names

def ReferentialAction.fragment : ReferentialAction → Fragment
  | .verbatim sql => .given sql
  | action => .fixed action.sql

def actionFragments (keyword : String) : Option ReferentialAction → List Fragment
  | some action => [.fixed (" ON " ++ keyword ++ " "), action.fragment]
  | none => []

def ForeignKey.fragments (key : ForeignKey) : List Fragment :=
  .fixed "FOREIGN KEY (" :: nameFragments key.columns
    ++ .fixed ") REFERENCES " :: .given key.table :: .fixed "(" :: nameFragments key.references
    ++ .fixed ")" :: actionFragments "DELETE" key.onDelete
    ++ actionFragments "UPDATE" key.onUpdate

def Rule.fragments : Rule → List Fragment
  | .primaryKey columns => .fixed "PRIMARY KEY (" :: nameFragments columns ++ [.fixed ")"]
  | .unique columns => .fixed "UNIQUE (" :: nameFragments columns ++ [.fixed ")"]
  | .foreignKey key => key.fragments
  | .check expression => [.fixed "CHECK (", .given expression, .fixed ")"]

/-- **The fragments of a constraint.** -/
def Constraint.fragments (c : Constraint) : List Fragment :=
  match c.name with
  | some name => .fixed "CONSTRAINT " :: .given name :: .fixed " " :: c.rule.fragments
  | none => c.rule.fragments

theorem join_nameFragments (names : List String) :
    Fragment.join (nameFragments names) = listed names := by
  rw [listed]
  fun_induction nameFragments names with
  | case1 => rfl
  | case2 name =>
    rw [Fragment.join_cons, Fragment.join_nil, String.append_empty, String.intercalate_singleton]
    rfl
  | case3 name names hnames ih =>
    obtain ⟨second, more, rfl⟩ := List.exists_cons_of_ne_nil hnames
    rw [Fragment.join_cons, Fragment.join_cons, ih, String.intercalate_cons_cons,
      String.append_assoc]
    rfl

theorem join_actionFragments (keyword : String) (action : Option ReferentialAction) :
    Fragment.join (actionFragments keyword action) = actionClause keyword action := by
  have htext : ∀ a : ReferentialAction, a.fragment.text = a.sql := by
    intro a
    cases a <;> rfl
  cases action with
  | none => rfl
  | some a =>
    rw [actionFragments, Fragment.join_cons, Fragment.join_cons, Fragment.join_nil, htext,
      String.append_empty, actionClause]
    rfl

theorem ForeignKey.join_fragments (key : ForeignKey) : Fragment.join key.fragments = key.sql := by
  unfold ForeignKey.fragments ForeignKey.sql
  simp only [Fragment.join_append, Fragment.join_cons, join_nameFragments, join_actionFragments]
  simp only [Fragment.text_fixed, Fragment.text_given, String.append_assoc]

theorem Rule.join_fragments (rule : Rule) : Fragment.join rule.fragments = rule.sql := by
  cases rule with
  | primaryKey columns =>
    simp only [Rule.fragments, Rule.sql, Fragment.join_append, Fragment.join_cons,
      Fragment.join_nil, join_nameFragments, Fragment.text_fixed, String.append_empty]
  | unique columns =>
    simp only [Rule.fragments, Rule.sql, Fragment.join_append, Fragment.join_cons,
      Fragment.join_nil, join_nameFragments, Fragment.text_fixed, String.append_empty]
  | foreignKey key => exact key.join_fragments
  | check expression =>
    simp only [Rule.fragments, Rule.sql, Fragment.join_cons, Fragment.join_nil,
      Fragment.text_fixed, Fragment.text_given, String.append_empty, String.append_assoc]

theorem Constraint.join_fragments (c : Constraint) : Fragment.join c.fragments = c.sql := by
  rw [Constraint.fragments, Constraint.sql]
  cases c.name with
  | none => exact c.rule.join_fragments
  | some name =>
    rw [Fragment.join_cons, Fragment.join_cons, Fragment.join_cons, Rule.join_fragments]
    simp only [Fragment.text_fixed, Fragment.text_given, String.append_assoc]

/-! ## Elements -/

def Element.fragments (d : Dialect) : Element → List Fragment
  | .column c inlineKey => d.columnFragments c inlineKey
  | .constraint c => c.fragments

/-- **The fragments of an element are its text.** -/
theorem Element.join_fragments (d : Dialect) (e : Element) :
    Fragment.join (e.fragments d) = e.sql d := by
  cases e with
  | column c inlineKey => exact d.join_columnFragments c inlineKey
  | constraint c => exact c.join_fragments

/-- The CREATE TABLE statement in fragments. -/
theorem Table.createStatement_eq_fragments (d : Dialect) (t : Table) :
    t.createStatement d
      = t.createHead ++ listed (t.elements.map fun e => Fragment.join (e.fragments d)) ++ ");" := by
  have htexts : (t.elements.map fun e => Fragment.join (e.fragments d))
      = t.elements.map (·.sql d) := List.map_congr_left fun e _ => e.join_fragments d
  rw [createStatement, htexts]

end SchemaSql
