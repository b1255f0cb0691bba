/-
Words in the text of an element.

Several questions about the statement of a table come down to how often a phrase stands in
what this library writes of an element. The phrases differ, and so do the clauses that
have them, but in all of them most of the text does not matter, and for the same reason. A
type name is a fixed word, perhaps with numbers in parentheses, a literal is a fixed word, a
number or a text of the caller, and names are a list of such texts.

So the phrase is left open here. It only has to be a word (`isWord`). A word does not go
across a blank, a comma, a parenthesis or a text of the caller, which are the breaks between
the parts of an element, and it is no number. That leaves the fixed words themselves, and
there are few of them. `Dialect.ColumnsLack` and `ConstraintsLack` ask for a phrase that none
of them has, and this can be decided, since a type without its numbers is one of a short list
(`DataType.kinds`).

What remains of a column is then its type, where Postgres may have written a serial type, and
its clauses (`occurrences_bodyFragments`), and what remains of a constraint is the keyword of
its rule (`occurrences_fragments`). A single letter is a word too, and to say that it does not
occur is to say that it is missing (`occurrences_singleton_iff`).
-/
import SchemaSql.Proofs.Table.ElementFragments

set_option autoImplicit false

namespace SchemaSql

open SchemaSql.Number SchemaSql.Text

/-! ## Words -/

/-- What stands between the words of an element. A question mark covers a text of the caller. -/
def breaks : List Char := ['?', ' ', ',', '(', ')']

/-- **A word**: a phrase without a break in it that is no number. -/
def isWord (phrase : List Char) : Bool :=
  (breaks.all fun x => !phrase.contains x) && phrase.any fun x => !decide (IsNumeralChar x)

section Words

variable {phrase : List Char}

theorem not_mem_of_isWord (h : isWord phrase = true) {x : Char} (hx : x ∈ breaks) :
    x ∉ phrase := by
  rw [isWord, Bool.and_eq_true, List.all_eq_true] at h
  simpa using h.1 x hx

theorem exists_letter_of_isWord (h : isWord phrase = true) :
    ∃ x ∈ phrase, ¬IsNumeralChar x := by
  rw [isWord, Bool.and_eq_true, List.any_eq_true] at h
  simpa using h.2

theorem ne_nil_of_isWord (h : isWord phrase = true) : phrase ≠ [] := by
  obtain ⟨x, hx, -⟩ := exists_letter_of_isWord h
  exact List.ne_nil_of_mem hx

/-- Between breaks and in numbers there is no word. -/
theorem occurrences_of_no_letter (h : isWord phrase = true) {s : List Char}
    (hs : ∀ x ∈ s, x ∈ breaks ∨ IsNumeralChar x) : occurrences phrase s = 0 := by
  obtain ⟨x, hx, hletter⟩ := exists_letter_of_isWord h
  refine occurrences_eq_zero hx fun hmem => ?_
  rcases hs x hmem with hbreak | hnumeral
  · exact not_mem_of_isWord h hbreak hx
  · exact hletter hnumeral

theorem isClear_of_breaks (h : isWord phrase = true) {s : List Char} (hs : ∀ x ∈ s, x ∈ breaks) :
    IsClear phrase s :=
  isClear_of_not_mem (ne_nil_of_isWord h) fun x hx => not_mem_of_isWord h (hs x hx)

theorem isClear_given (h : isWord phrase = true) (s : String) :
    IsClear phrase (Fragment.given s).visible :=
  isClear_of_breaks h fun x hx => by
    rw [List.mem_singleton.mp hx]
    decide

theorem startsApart_of_break (h : isWord phrase = true) {s : List Char}
    (hs : s.head?.all breaks.contains = true) : startsApart phrase s = true := by
  cases s with
  | nil => rfl
  | cons x rest =>
    have hx : x ∈ breaks := List.contains_iff_mem.mp hs
    simpa [startsApart] using not_mem_of_isWord h hx

/-- A clause is clear if its words are, also with what comes behind a blank. -/
theorem isClear_append_blank (h : isWord phrase = true) {s rest : List Char}
    (hs : s.head?.all breaks.contains = true) (hnone : occurrences phrase s = 0)
    (hrest : occurrences phrase rest = 0) : IsClear phrase (s ++ ' ' :: rest) := by
  constructor
  · rw [occurrences_append_cons (ne_nil_of_isWord h) (not_mem_of_isWord h (by decide)), hnone,
      hrest]
  · apply startsApart_of_break h
    cases s with
    | nil => rfl
    | cons x s => exact hs

/-- **A clause** is left out or begins with a break. -/
theorem startsApart_clause (h : isWord phrase = true) (p : Bool) {clause : String}
    (hclause : clause.toList.head?.all breaks.contains = true) :
    startsApart phrase (if p then clause else "").toList = true := by
  cases p with
  | false => rfl
  | true => exact startsApart_of_break h hclause

theorem occurrences_clause {clause : String} (h : occurrences phrase clause.toList = 0)
    (p : Bool) : occurrences phrase (if p then clause else "").toList = 0 := by
  cases p with
  | false => rfl
  | true => exact h

end Words

/-! ## Types -/

/-- A type without its numbers. -/
def DataType.unsized : DataType → DataType
  | .decimal _ _ => .decimal 0 0
  | .char _ => .char 0
  | .string _ => .string 0
  | type => type

/-- The types that dialects have names for, without their numbers. -/
def DataType.kinds : List DataType :=
  [.smallInteger, .integer, .bigInteger, .real, .double, .decimal 0 0, .char 0, .string 0, .text,
    .boolean, .date, .time, .timestamp, .binary, .json, .uuid]

theorem DataType.unsized_mem_kinds {type : DataType} (h : ∀ sql, type ≠ .custom sql) :
    type.unsized ∈ kinds := by
  cases type with
  | custom sql => exact absurd rfl (h sql)
  | _ => simp [unsized, kinds]

namespace Dialect

variable {d : Dialect} {phrase : List Char}

/-- The numbers of a type do not count. -/
theorem occurrences_sized (h : isWord phrase = true) (name : String) (length : UInt32) :
    occurrences phrase (sized name length).toList = occurrences phrase name.toList := by
  have htext : (sized name length).toList
      = name.toList ++ '(' :: ((natText length.toNat).toList ++ [')']) := by
    rw [sized, String.toList_append, String.toList_append, String.toList_append,
      List.append_assoc, List.append_assoc]
    rfl
  have hnumbers : occurrences phrase ((natText length.toNat).toList ++ [')']) = 0 := by
    refine occurrences_of_no_letter h fun x hx => ?_
    rw [List.mem_append, List.mem_singleton] at hx
    rcases hx with hx | rfl
    · exact .inr (isNumeralChar_of_mem_natText hx)
    · exact .inl (by decide)
  rw [htext, occurrences_append_cons (ne_nil_of_isWord h) (not_mem_of_isWord h (by decide)),
    hnumbers, Nat.add_zero]

theorem occurrences_sizedDecimal (h : isWord phrase = true) (precision scale : UInt16) :
    occurrences phrase (sizedDecimal precision scale).toList
      = occurrences phrase "DECIMAL".toList := by
  have htext : (sizedDecimal precision scale).toList
      = "DECIMAL".toList ++ '(' :: ((natText precision.toNat).toList
          ++ ([',', ' '] ++ ((natText scale.toNat).toList ++ [')']))) := by
    rw [sizedDecimal]
    simp only [String.toList_append, List.append_assoc]
    rfl
  have hnumbers : occurrences phrase ((natText precision.toNat).toList
      ++ ([',', ' '] ++ ((natText scale.toNat).toList ++ [')']))) = 0 := by
    refine occurrences_of_no_letter h fun x hx => ?_
    simp only [List.mem_append, List.mem_cons, List.not_mem_nil, or_false] at hx
    rcases hx with hx | (rfl | rfl) | hx | rfl
    · exact .inr (isNumeralChar_of_mem_natText hx)
    · exact .inl (by decide)
    · exact .inl (by decide)
    · exact .inr (isNumeralChar_of_mem_natText hx)
    · exact .inl (by decide)
  rw [htext, occurrences_append_cons (ne_nil_of_isWord h) (not_mem_of_isWord h (by decide)),
    hnumbers, Nat.add_zero]

theorem occurrences_typeName_unsized (h : isWord phrase = true) (d : Dialect) (type : DataType) :
    occurrences phrase (d.typeName type).toList
      = occurrences phrase (d.typeName type.unsized).toList := by
  have hsized : ∀ (name : String) (length : UInt32),
      occurrences phrase (sized name length).toList = occurrences phrase (sized name 0).toList := by
    intro name length
    rw [occurrences_sized h, occurrences_sized h]
  have hdecimal : ∀ precision scale : UInt16,
      occurrences phrase (sizedDecimal precision scale).toList
        = occurrences phrase (sizedDecimal 0 0).toList := by
    intro precision scale
    rw [occurrences_sizedDecimal h, occurrences_sizedDecimal h]
  -- SQLite has no sized types.
  cases type with
  | decimal precision scale =>
    cases d with
    | sqlite => rfl
    | _ => exact hdecimal precision scale
  | char length =>
    cases d with
    | sqlite => rfl
    | _ => exact hsized "CHAR" length
  | string maxLength =>
    cases d with
    | sqlite => rfl
    | _ => exact hsized "VARCHAR" maxLength
  | _ => rfl

/-- The serial type that is written for a column, if one is. -/
def serialType? (d : Dialect) (c : Column) : Option String :=
  match d with
  | .postgres => if c.autoincrement then serialTypeName? c.type else none
  | .mysql | .sqlite => none

theorem columnType_eq (d : Dialect) (c : Column) :
    d.columnType c = (d.serialType? c).getD (d.typeName c.type) := by
  cases d with
  | postgres =>
    rw [columnType, serialType?]
    by_cases hauto : c.autoincrement = true
    · rw [if_pos hauto, if_pos hauto]
    · rw [if_neg hauto, if_neg hauto]
      rfl
  | _ => rfl

/-! ## Columns -/

/-- **A word that a dialect writes in the clauses of a column at most**, of which the default is
none, and in the serial types. -/
structure ColumnsLack (d : Dialect) (phrase : List Char) : Prop where
  word : isWord phrase = true
  types : ∀ type ∈ DataType.kinds, occurrences phrase (d.typeName type).toList = 0
  keyword : occurrences phrase " DEFAULT".toList = 0
  literals : ∀ value ∈ [.null, .boolean true, .boolean false],
    occurrences phrase (d.defaultText value).toList = 0

namespace ColumnsLack

theorem occurrences_typeFragment (h : d.ColumnsLack phrase) (c : Column) :
    occurrences phrase (d.typeFragment c).visible
      = ((d.serialType? c).map fun name => occurrences phrase name.toList).getD 0 := by
  have hname : (∀ sql, c.type ≠ .custom sql) →
      occurrences phrase (d.columnType c).toList
        = ((d.serialType? c).map fun name => occurrences phrase name.toList).getD 0 := by
    intro htype
    rw [columnType_eq]
    cases d.serialType? c with
    | some name => rfl
    | none =>
      exact (occurrences_typeName_unsized h.word d c.type).trans
        (h.types _ (DataType.unsized_mem_kinds htype))
  rw [typeFragment]
  cases htype : c.type with
  | custom sql =>
    have hserial : d.serialType? c = none := by
      cases d with
      | postgres =>
        rw [serialType?, htype]
        exact ite_self _
      | _ => rfl
    rw [hserial]
    exact (isClear_given h.word sql).1
  | _ =>
    refine hname fun sql hsql => ?_
    rw [htype] at hsql
    cases hsql

theorem occurrences_defaultFragment (h : d.ColumnsLack phrase) (value : DefaultValue) :
    occurrences phrase (d.defaultFragment value).visible = 0 := by
  cases value with
  | null => exact h.literals .null (by decide)
  | boolean value => exact h.literals (.boolean value) (by cases value <;> decide)
  | integer value =>
    show occurrences phrase (d.defaultText (.integer value)).toList = 0
    rw [defaultText_integer]
    exact occurrences_of_no_letter h.word fun _ hx => .inr (isNumeralChar_of_mem_intText hx)
  | float value =>
    show occurrences phrase (d.defaultText (.float value)).toList = 0
    rw [defaultText_float]
    exact occurrences_of_no_letter h.word fun _ hx => .inr (isNumeralChar_of_mem_floatText hx)
  | string value => exact (isClear_given h.word (sqlLiteral value)).1
  | expression sql => exact (isClear_given h.word sql).1

/-- A default stands behind a blank. -/
theorem isClear_defaultFragments (h : d.ColumnsLack phrase) (value : Option DefaultValue) :
    IsClear phrase (Fragment.skeleton (d.defaultFragments value)) := by
  cases value with
  | none => exact ⟨rfl, rfl⟩
  | some value =>
    have hpieces : Fragment.skeleton (d.defaultFragments (some value))
        = " DEFAULT".toList ++ ' ' :: (d.defaultFragment value).visible := by
      rw [defaultFragments, Fragment.skeleton_cons, Fragment.skeleton_cons, Fragment.skeleton_nil,
        List.append_nil]
      rfl
    rw [hpieces]
    exact isClear_append_blank h.word (by decide) h.keyword (h.occurrences_defaultFragment value)

/-- **What remains of a column** is its type and its clauses. -/
theorem occurrences_bodyFragments (h : d.ColumnsLack phrase) (c : Column) (inlineKey : Bool) :
    occurrences phrase (Fragment.skeleton (d.bodyFragments c inlineKey))
      = occurrences phrase (d.typeFragment c).visible
        + occurrences phrase (if !c.nullable && !inlineKey then " NOT NULL" else "").toList
        + occurrences phrase (if c.autoincrement then d.autoincrementKeyword else "").toList
        + occurrences phrase (if c.unique && !inlineKey then " UNIQUE" else "").toList := by
  have hne := ne_nil_of_isWord h.word
  have hname : occurrences phrase ['?'] = 0 := (isClear_given h.word c.name).1
  have hkeyword : d.autoincrementKeyword.toList.head?.all breaks.contains = true := by
    cases d <;> decide
  have hpieces : Fragment.skeleton (d.bodyFragments c inlineKey)
      = (((['?'] ++ ' ' :: (d.typeFragment c).visible)
          ++ (if !c.nullable && !inlineKey then " NOT NULL" else "").toList)
          ++ Fragment.skeleton (d.defaultFragments c.default))
          ++ (if c.autoincrement then d.autoincrementKeyword else "").toList
          ++ (if c.unique && !inlineKey then " UNIQUE" else "").toList := by
    rw [bodyFragments]
    simp only [Fragment.skeleton_append, Fragment.skeleton_cons, Fragment.skeleton_nil,
      List.append_nil, List.append_assoc, List.cons_append]
    rfl
  rw [hpieces, occurrences_append hne (startsApart_clause h.word _ (by decide)),
    occurrences_append hne (startsApart_clause h.word _ hkeyword),
    (h.isClear_defaultFragments c.default).occurrences_append hne,
    occurrences_append hne (startsApart_clause h.word _ (by decide)),
    occurrences_append_cons hne (not_mem_of_isWord h.word (by decide)), hname, Nat.zero_add]

theorem occurrences_standardFragments (h : d.ColumnsLack phrase) (c : Column) (inlineKey : Bool) :
    occurrences phrase (Fragment.skeleton (d.standardFragments c inlineKey))
      = occurrences phrase (Fragment.skeleton (d.bodyFragments c inlineKey))
        + occurrences phrase (if inlineKey then " PRIMARY KEY" else "").toList := by
  have hkey : Fragment.skeleton [.fixed (if inlineKey then " PRIMARY KEY" else "")]
      = (if inlineKey then " PRIMARY KEY" else "").toList := List.append_nil _
  rw [standardFragments, Fragment.skeleton_append, hkey, occurrences_append
    (ne_nil_of_isWord h.word) (startsApart_clause h.word _ (by decide))]

end ColumnsLack

end Dialect

/-! ## Constraints -/

/-- **A word that is only in the keywords of rules.** -/
structure ConstraintsLack (phrase : List Char) : Prop where
  word : isWord phrase = true
  clauses : ∀ clause ∈ ["CONSTRAINT", ") REFERENCES", " ON DELETE", " ON UPDATE"],
    occurrences phrase clause.toList = 0
  actions : ∀ action ∈ [.noAction, .restrict, .cascade, .setNull, .setDefault],
    occurrences phrase (ReferentialAction.sql action).toList = 0

/-- The keyword of a rule. -/
def Rule.keyword : Rule → String
  | .primaryKey _ => "PRIMARY KEY ("
  | .unique _ => "UNIQUE ("
  | .foreignKey _ => "FOREIGN KEY ("
  | .check _ => "CHECK ("

/-- There are only breaks in a list of names. -/
theorem mem_breaks_of_mem_nameFragments {names : List String} {x : Char}
    (h : x ∈ Fragment.skeleton (nameFragments names)) : x ∈ breaks := by
  have hname : ∀ name : String, x ∈ (Fragment.given name).visible → x ∈ breaks :=
    fun _ hx => List.mem_append_left [' ', ',', '(', ')'] hx
  have hseparator : x ∈ (Fragment.fixed ", ").visible → x ∈ breaks := by
    intro hx
    have hpair : x ∈ [',', ' '] := hx
    rw [List.mem_cons, List.mem_singleton] at hpair
    rcases hpair with rfl | rfl <;> decide
  fun_induction nameFragments names with
  | case1 => cases h
  | case2 name => exact hname name h
  | case3 name names hnames ih =>
    rw [Fragment.skeleton_cons, Fragment.skeleton_cons, List.mem_append, List.mem_append] at h
    rcases h with h | h | h
    · exact hname name h
    · exact hseparator h
    · exact ih h

namespace ConstraintsLack

variable {phrase : List Char}

theorem isClear_nameFragments (h : ConstraintsLack phrase) (names : List String) :
    IsClear phrase (Fragment.skeleton (nameFragments names)) :=
  isClear_of_breaks h.word fun _ => mem_breaks_of_mem_nameFragments

theorem isClear_actionFragments (h : ConstraintsLack phrase) {keyword : String}
    (hkeyword : keyword ∈ ["DELETE", "UPDATE"]) (action : Option ReferentialAction) :
    IsClear phrase (Fragment.skeleton (actionFragments keyword action)) := by
  cases action with
  | none => exact ⟨rfl, rfl⟩
  | some a =>
    have haction : occurrences phrase a.fragment.visible = 0 := by
      cases a with
      | verbatim sql => exact (isClear_given h.word sql).1
      | _ => exact h.actions _ (by decide)
    have hclause : occurrences phrase (" ON " ++ keyword).toList = 0 := by
      rw [List.mem_cons, List.mem_singleton] at hkeyword
      rcases hkeyword with rfl | rfl
      · exact h.clauses " ON DELETE" (by decide)
      · exact h.clauses " ON UPDATE" (by decide)
    have hpieces : Fragment.skeleton (actionFragments keyword (some a))
        = (" ON " ++ keyword).toList ++ ' ' :: a.fragment.visible := by
      rw [actionFragments, Fragment.skeleton_cons, Fragment.skeleton_cons, Fragment.skeleton_nil,
        List.append_nil, Fragment.visible, String.toList_append, List.append_assoc]
      rfl
    have hstart : (" ON " ++ keyword).toList.head?.all breaks.contains = true := by
      rw [String.toList_append]
      rfl
    rw [hpieces]
    exact isClear_append_blank h.word hstart hclause haction

/-- What follows the keyword of a rule is clear. -/
theorem occurrences_ruleFragments (h : ConstraintsLack phrase) (rule : Rule) :
    occurrences phrase (Fragment.skeleton rule.fragments)
      = occurrences phrase rule.keyword.toList := by
  have hne := ne_nil_of_isWord h.word
  have hnames := h.isClear_nameFragments
  have hclosing : IsClear phrase (Fragment.skeleton [.fixed ")"]) := by
    refine isClear_of_breaks h.word fun x hx => ?_
    rw [List.mem_singleton.mp hx]
    decide
  have hlisting : ∀ (opening : Fragment) (names : List String),
      occurrences phrase (Fragment.skeleton (opening :: nameFragments names ++ [.fixed ")"]))
        = occurrences phrase opening.visible := by
    intro opening names
    rw [List.cons_append]
    exact occurrences_skeleton_cons hne (isClear_skeleton_append hne (hnames names) hclosing)
  cases rule with
  | primaryKey columns => exact hlisting (.fixed "PRIMARY KEY (") columns
  | unique columns => exact hlisting (.fixed "UNIQUE (") columns
  | foreignKey key =>
    have htable : IsClear phrase
        (Fragment.skeleton [.fixed ") REFERENCES ", .given key.table, .fixed "("]) := by
      have hbehind : occurrences phrase ['?', '('] = 0 :=
        occurrences_of_no_letter h.word fun x hx => by
          simp only [List.mem_cons, List.not_mem_nil, or_false] at hx
          rcases hx with rfl | rfl <;> exact .inl (by decide)
      have hpieces : Fragment.skeleton [.fixed ") REFERENCES ", .given key.table, .fixed "("]
          = ") REFERENCES".toList ++ ' ' :: ['?', '('] := rfl
      rw [hpieces]
      exact isClear_append_blank h.word rfl (h.clauses ") REFERENCES" (by decide)) hbehind
    have hdelete := h.isClear_actionFragments (by decide : "DELETE" ∈ _) key.onDelete
    have hupdate := h.isClear_actionFragments (by decide : "UPDATE" ∈ _) key.onUpdate
    have hactions := isClear_skeleton_append hne (isClear_skeleton_append hne hclosing hdelete)
      hupdate
    have hrest := isClear_skeleton_append hne (hnames key.columns)
      (isClear_skeleton_append hne htable
        (isClear_skeleton_append hne (hnames key.references) hactions))
    have hfragments : (Rule.foreignKey key).fragments
        = .fixed "FOREIGN KEY (" :: (nameFragments key.columns
          ++ ([.fixed ") REFERENCES ", .given key.table, .fixed "("]
            ++ (nameFragments key.references
              ++ ([.fixed ")"] ++ actionFragments "DELETE" key.onDelete
                ++ actionFragments "UPDATE" key.onUpdate)))) := by
      rw [Rule.fragments, ForeignKey.fragments]
      simp only [List.cons_append, List.append_assoc, List.nil_append]
    rw [hfragments]
    exact occurrences_skeleton_cons hne hrest
  | check expression =>
    rw [Rule.fragments]
    exact occurrences_skeleton_cons hne
      (isClear_skeleton_cons hne (isClear_given h.word expression) hclosing)

/-- **What remains of a constraint** is the keyword of its rule. -/
theorem occurrences_fragments (h : ConstraintsLack phrase) (k : Constraint) :
    occurrences phrase (Fragment.skeleton k.fragments)
      = occurrences phrase k.rule.keyword.toList := by
  rw [← h.occurrences_ruleFragments, Constraint.fragments]
  cases k.name with
  | none => rfl
  | some name =>
    have hne := ne_nil_of_isWord h.word
    have hblank : ' ' ∉ phrase := not_mem_of_isWord h.word (by decide)
    have hname : occurrences phrase ['?'] = 0 := (isClear_given h.word name).1
    have hpieces : Fragment.skeleton
        (.fixed "CONSTRAINT " :: .given name :: .fixed " " :: k.rule.fragments)
          = "CONSTRAINT".toList ++ ' ' :: (['?'] ++ ' ' :: Fragment.skeleton k.rule.fragments) :=
      rfl
    rw [hpieces, occurrences_append_cons hne hblank, occurrences_append_cons hne hblank, hname,
      h.clauses "CONSTRAINT" (by decide), Nat.zero_add, Nat.zero_add]

end ConstraintsLack

end SchemaSql
