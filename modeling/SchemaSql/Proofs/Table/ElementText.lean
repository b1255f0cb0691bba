/-
What is written for a table comes in pieces.

An element of a CREATE TABLE statement must not be cut by a comma of its own and must not
open anything that it does not close. This file shows it for every text from which an
element is built: the digits of numbers, the type names with their lengths, the defaults,
the clauses of a column, the rules of a constraint. Each kind of text has one lemma, and
the lemma asks something of exactly those texts of the caller that are written as they
stand: names are plain, and types, expressions and actions are in one piece. A string
default is not among them, because it is quoted.

The expression of a check stands in parentheses of its own, so that it need only be
balanced.
-/
import SchemaSql.Proofs.Number.Numeral
import SchemaSql.Proofs.Sql.Nesting
import SchemaSql.Rendering.ColumnText

set_option autoImplicit false

namespace SchemaSql

open SchemaSql.Number

/-! ## Joining pieces -/

theorem isOnePiece_join {texts : List String} (h : ∀ s ∈ texts, IsOnePiece s) :
    IsOnePiece (String.join texts) := by
  induction texts with
  | nil => exact isOnePiece_empty
  | cons s texts ih =>
    rw [String.join_cons]
    exact (h s List.mem_cons_self).append (ih fun u hu => h u (List.mem_cons_of_mem s hu))

/-- A piece with a balanced text in parentheses behind it. -/
theorem IsOnePiece.parenthesis {head s : String} (hhead : IsOnePiece head) (hs : IsBalanced s) :
    IsOnePiece (head ++ "(" ++ s ++ ")") := by
  have hpiece := hhead.append hs.parenthesized
  rwa [← String.append_assoc, ← String.append_assoc] at hpiece

/-- Names in parentheses. -/
theorem IsOnePiece.names {head : String} (hhead : IsOnePiece head) {names : List String}
    (h : ∀ name ∈ names, IsPlain name) : IsOnePiece (head ++ "(" ++ listed names ++ ")") :=
  hhead.parenthesis (isBalanced_listed fun name hname => (h name hname).isOnePiece)

/-! ## Numbers -/

/-- No character of a numeral is a quote, a comma or a parenthesis. -/
theorem isPlainChar_of_isNumeralChar {c : Char} (h : IsNumeralChar c) : IsPlainChar c := by
  refine ⟨?_, ?_, ?_, ?_⟩
  all_goals
    rintro rfl
    exact absurd h (by decide)

theorem isPlain_natText (n : Nat) : IsPlain (natText n) :=
  fun _ hc => isPlainChar_of_isNumeralChar (isNumeralChar_of_mem_natText hc)

theorem isPlain_intText (i : Int) : IsPlain (intText i) :=
  fun _ hc => isPlainChar_of_isNumeralChar (isNumeralChar_of_mem_intText hc)

theorem isPlain_floatText (x : Binary64) : IsPlain (DefaultValue.floatLayout.text x) :=
  fun _ hc => isPlainChar_of_isNumeralChar (isNumeralChar_of_mem_floatText hc)

/-! ## What the caller writes -/

/-- The caller's SQL in a type. -/
def DataType.verbatim? : DataType → Option String
  | .custom sql => some sql
  | _ => none

/-- The caller's SQL in a default. A string is not SQL. -/
def DefaultValue.verbatim? : DefaultValue → Option String
  | .expression sql => some sql
  | _ => none

/-- The caller's SQL in an action. -/
def ReferentialAction.verbatim? : ReferentialAction → Option String
  | .verbatim sql => some sql
  | _ => none

/-- What a reference names is plain, and its actions are in one piece. -/
structure Reference.IsClosed (r : Reference) : Prop where
  table : IsPlain r.table
  column : IsPlain r.column
  onDelete : ∀ action ∈ r.onDelete, ∀ sql ∈ action.verbatim?, IsOnePiece sql
  onUpdate : ∀ action ∈ r.onUpdate, ∀ sql ∈ action.verbatim?, IsOnePiece sql

/-- **A closed column.** Its name is plain, and what the caller writes is in one piece. -/
structure Column.IsClosed (c : Column) : Prop where
  name : IsPlain c.name
  type : ∀ sql ∈ c.type.verbatim?, IsOnePiece sql
  default : ∀ value ∈ c.default, ∀ sql ∈ value.verbatim?, IsOnePiece sql
  references : ∀ r ∈ c.references, r.IsClosed

/-- What a foreign key names of the other table is plain, and its actions are in one piece. -/
structure ForeignKey.IsClosed (key : ForeignKey) : Prop where
  table : IsPlain key.table
  references : ∀ name ∈ key.references, IsPlain name
  onDelete : ∀ action ∈ key.onDelete, ∀ sql ∈ action.verbatim?, IsOnePiece sql
  onUpdate : ∀ action ∈ key.onUpdate, ∀ sql ∈ action.verbatim?, IsOnePiece sql

/-- The expression of a check may be a list. -/
def Rule.IsClosed : Rule → Prop
  | .primaryKey _ => True
  | .unique _ => True
  | .foreignKey key => key.IsClosed
  | .check expression => IsBalanced expression

/-- **A closed constraint.** Its name is plain, if it has one, and its rule is closed. -/
structure Constraint.IsClosed (c : Constraint) : Prop where
  name : ∀ name ∈ c.name, IsPlain name
  rule : c.rule.IsClosed

instance (r : Reference) : Decidable r.IsClosed :=
  decidable_of_iff
    (IsPlain r.table ∧ IsPlain r.column
      ∧ (∀ action ∈ r.onDelete, ∀ sql ∈ action.verbatim?, IsOnePiece sql)
      ∧ ∀ action ∈ r.onUpdate, ∀ sql ∈ action.verbatim?, IsOnePiece sql)
    ⟨fun ⟨table, column, onDelete, onUpdate⟩ => ⟨table, column, onDelete, onUpdate⟩,
      fun h => ⟨h.table, h.column, h.onDelete, h.onUpdate⟩⟩

instance (c : Column) : Decidable c.IsClosed :=
  decidable_of_iff
    (IsPlain c.name ∧ (∀ sql ∈ c.type.verbatim?, IsOnePiece sql)
      ∧ (∀ value ∈ c.default, ∀ sql ∈ value.verbatim?, IsOnePiece sql)
      ∧ ∀ r ∈ c.references, r.IsClosed)
    ⟨fun ⟨name, type, default, references⟩ => ⟨name, type, default, references⟩,
      fun h => ⟨h.name, h.type, h.default, h.references⟩⟩

instance (key : ForeignKey) : Decidable key.IsClosed :=
  decidable_of_iff
    (IsPlain key.table ∧ (∀ name ∈ key.references, IsPlain name)
      ∧ (∀ action ∈ key.onDelete, ∀ sql ∈ action.verbatim?, IsOnePiece sql)
      ∧ ∀ action ∈ key.onUpdate, ∀ sql ∈ action.verbatim?, IsOnePiece sql)
    ⟨fun ⟨table, references, onDelete, onUpdate⟩ => ⟨table, references, onDelete, onUpdate⟩,
      fun h => ⟨h.table, h.references, h.onDelete, h.onUpdate⟩⟩

instance : (rule : Rule) → Decidable rule.IsClosed
  | .primaryKey _ => inferInstanceAs (Decidable True)
  | .unique _ => inferInstanceAs (Decidable True)
  | .foreignKey key => inferInstanceAs (Decidable key.IsClosed)
  | .check expression => inferInstanceAs (Decidable (IsBalanced expression))

instance (c : Constraint) : Decidable c.IsClosed :=
  decidable_of_iff ((∀ name ∈ c.name, IsPlain name) ∧ c.rule.IsClosed)
    ⟨fun ⟨name, rule⟩ => ⟨name, rule⟩, fun h => ⟨h.name, h.rule⟩⟩

/-! ## Types -/

theorem isOnePiece_sized {name : String} (hname : IsOnePiece name) (length : UInt32) :
    IsOnePiece (Dialect.sized name length) :=
  hname.parenthesis (isPlain_natText length.toNat).isOnePiece.isBalanced

/-- The comma of a fixed point type stands in its parentheses. -/
theorem isOnePiece_sizedDecimal (precision scale : UInt16) :
    IsOnePiece (Dialect.sizedDecimal precision scale) := by
  have hdigits : ∀ n, IsBalanced (natText n) := fun n => (isPlain_natText n).isOnePiece.isBalanced
  have hcomma : IsBalanced ", " := by decide
  have hhead : IsOnePiece "DECIMAL" := by decide
  have hpiece := hhead.parenthesis
    (((hdigits precision.toNat).append hcomma).append (hdigits scale.toNat))
  rw [Dialect.sizedDecimal, show "DECIMAL(" = "DECIMAL" ++ "(" from rfl]
  simpa only [String.append_assoc] using hpiece

theorem isOnePiece_typeName (d : Dialect) {type : DataType}
    (h : ∀ sql ∈ type.verbatim?, IsOnePiece sql) : IsOnePiece (d.typeName type) := by
  have hnumeric : IsOnePiece "NUMERIC" := by decide
  have htext : IsOnePiece "TEXT" := by decide
  have hchar : IsOnePiece "CHAR" := by decide
  have hvarchar : IsOnePiece "VARCHAR" := by decide
  cases type with
  | custom sql => rcases d with _ | _ | _ <;> exact h sql rfl
  | decimal precision scale =>
    rcases d with _ | _ | _
    · exact isOnePiece_sizedDecimal precision scale
    · exact isOnePiece_sizedDecimal precision scale
    · exact hnumeric
  | char length =>
    rcases d with _ | _ | _
    · exact isOnePiece_sized hchar length
    · exact isOnePiece_sized hchar length
    · exact htext
  | string maxLength =>
    rcases d with _ | _ | _
    · exact isOnePiece_sized hvarchar maxLength
    · exact isOnePiece_sized hvarchar maxLength
    · exact htext
  | _ => rcases d with _ | _ | _ <;> decide

theorem isOnePiece_serialTypeName {type : DataType} {serial : String}
    (h : Dialect.serialTypeName? type = some serial) : IsOnePiece serial := by
  cases type <;> cases h <;> decide

theorem isOnePiece_columnType (d : Dialect) {c : Column}
    (h : ∀ sql ∈ c.type.verbatim?, IsOnePiece sql) : IsOnePiece (d.columnType c) := by
  have hname := isOnePiece_typeName d h
  rcases d with _ | _ | _
  · rw [Dialect.columnType]
    by_cases hauto : c.autoincrement = true
    · rw [if_pos hauto]
      rcases hserial : Dialect.serialTypeName? c.type with _ | serial
      · exact hname
      · exact isOnePiece_serialTypeName hserial
    · rwa [if_neg hauto]
  · exact hname
  · exact hname

/-! ## Columns -/

theorem isOnePiece_default {value : DefaultValue} (h : ∀ sql ∈ value.verbatim?, IsOnePiece sql) :
    IsOnePiece value.sql := by
  cases value with
  | null => decide
  | boolean value => rcases value with _ | _ <;> decide
  | integer value => exact (isPlain_intText _).isOnePiece
  | float value => exact (isPlain_floatText value).isOnePiece
  | string value => exact isOnePiece_sqlLiteral value
  | expression sql => exact h sql rfl

theorem isOnePiece_defaultText (d : Dialect) {value : DefaultValue}
    (h : ∀ sql ∈ value.verbatim?, IsOnePiece sql) : IsOnePiece (d.defaultText value) := by
  have hsql := isOnePiece_default h
  rcases d with _ | _ | _
  · exact hsql
  · exact hsql
  · cases value with
    | boolean value => rcases value with _ | _ <;> decide
    | _ => exact hsql

/-- A clause that is written under a condition. -/
theorem isOnePiece_clause {s : String} (h : IsOnePiece s) (condition : Bool) :
    IsOnePiece (if condition then s else "") := by
  rcases condition with _ | _
  · exact isOnePiece_empty
  · exact h

theorem isOnePiece_columnClauses {d : Dialect} {c : Column} (h : c.IsClosed) (inlineKey : Bool) :
    ∀ s ∈ d.columnClauses c inlineKey, IsOnePiece s := by
  have hdefault : IsOnePiece " DEFAULT " := by decide
  have hkeyword : IsOnePiece d.autoincrementKeyword := by rcases d with _ | _ | _ <;> decide
  intro s hs
  simp only [Dialect.columnClauses, List.mem_cons, List.not_mem_nil, or_false] at hs
  -- One case for each clause, in their order.
  rcases hs with rfl | rfl | rfl | rfl | rfl
  · exact isOnePiece_clause (by decide) _
  · rcases hvalue : c.default with _ | value
    · exact isOnePiece_empty
    · exact hdefault.append (isOnePiece_defaultText d (h.default value hvalue))
  · exact isOnePiece_clause hkeyword _
  · exact isOnePiece_clause (by decide) _
  · exact isOnePiece_clause (by decide) _

/-- **A column** is written in one piece. -/
theorem isOnePiece_columnText (d : Dialect) {c : Column} (h : c.IsClosed) (inlineKey : Bool) :
    IsOnePiece (d.columnText c inlineKey) := by
  have hname := h.name.isOnePiece
  have hblank : IsOnePiece " " := by decide
  have hstandard : IsOnePiece (d.standardColumnText c inlineKey) :=
    ((hname.append hblank).append (isOnePiece_columnType d h.type)).append
      (isOnePiece_join (isOnePiece_columnClauses h inlineKey))
  rcases d with _ | _ | _
  · exact hstandard
  · exact hstandard
  · rw [Dialect.columnText]
    by_cases hauto : c.autoincrement = true
    · rw [if_pos hauto]
      exact hname.append (by decide)
    · rwa [if_neg hauto]

/-! ## Constraints -/

theorem isOnePiece_action {action : ReferentialAction}
    (h : ∀ sql ∈ action.verbatim?, IsOnePiece sql) : IsOnePiece action.sql := by
  cases action with
  | verbatim sql => exact h sql rfl
  | _ => decide

theorem isOnePiece_actionClause {keyword : String} (hkeyword : IsOnePiece keyword)
    {action : Option ReferentialAction}
    (h : ∀ a ∈ action, ∀ sql ∈ a.verbatim?, IsOnePiece sql) :
    IsOnePiece (actionClause keyword action) := by
  have hon : IsOnePiece " ON " := by decide
  have hblank : IsOnePiece " " := by decide
  rcases action with _ | a
  · exact isOnePiece_empty
  · exact ((hon.append hkeyword).append hblank).append (isOnePiece_action (h a rfl))

theorem isOnePiece_foreignKey {key : ForeignKey} (hcolumns : ∀ name ∈ key.columns, IsPlain name)
    (h : key.IsClosed) : IsOnePiece key.sql := by
  have hforeign : IsOnePiece "FOREIGN KEY " := by decide
  have hreferences : IsOnePiece " REFERENCES " := by decide
  have hlists : IsOnePiece ("FOREIGN KEY " ++ "(" ++ listed key.columns ++ ")" ++ " REFERENCES "
      ++ key.table ++ "(" ++ listed key.references ++ ")") :=
    (((hforeign.names hcolumns).append hreferences).append h.table.isOnePiece).names h.references
  have hdelete : IsOnePiece (actionClause "DELETE" key.onDelete) :=
    isOnePiece_actionClause (by decide) h.onDelete
  have hupdate : IsOnePiece (actionClause "UPDATE" key.onUpdate) :=
    isOnePiece_actionClause (by decide) h.onUpdate
  -- The fixed texts are split where they open and close the two lists.
  unfold ForeignKey.sql
  rw [show "FOREIGN KEY (" = "FOREIGN KEY " ++ "(" from rfl,
    show ") REFERENCES " = ")" ++ " REFERENCES " from rfl, ← String.append_assoc]
  exact (hlists.append hdelete).append hupdate

/-- **A rule** is written in one piece. The expression of a check stands in parentheses. -/
theorem isOnePiece_rule {rule : Rule} (hcolumns : ∀ name ∈ rule.columns, IsPlain name)
    (h : rule.IsClosed) : IsOnePiece rule.sql := by
  cases rule with
  | primaryKey columns =>
    have hhead : IsOnePiece "PRIMARY KEY " := by decide
    rw [Rule.sql, show "PRIMARY KEY (" = "PRIMARY KEY " ++ "(" from rfl]
    exact hhead.names hcolumns
  | unique columns =>
    have hhead : IsOnePiece "UNIQUE " := by decide
    rw [Rule.sql, show "UNIQUE (" = "UNIQUE " ++ "(" from rfl]
    exact hhead.names hcolumns
  | foreignKey key => exact isOnePiece_foreignKey hcolumns h
  | check expression =>
    have hhead : IsOnePiece "CHECK " := by decide
    rw [Rule.sql, show "CHECK (" = "CHECK " ++ "(" from rfl]
    exact hhead.parenthesis h

/-- **A constraint** is written in one piece. -/
theorem isOnePiece_constraint {c : Constraint} (hcolumns : ∀ name ∈ c.columns, IsPlain name)
    (h : c.IsClosed) : IsOnePiece c.sql := by
  have hrule := isOnePiece_rule hcolumns h.rule
  have hhead : IsOnePiece "CONSTRAINT " := by decide
  have hblank : IsOnePiece " " := by decide
  rw [Constraint.sql]
  rcases hname : c.name with _ | name
  · exact hrule
  · exact ((hhead.append (h.name name hname).isOnePiece).append hblank).append hrule

end SchemaSql
