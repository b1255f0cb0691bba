/-
Column lists: what is promised of them, and by whom.

A key, a foreign key and an index list columns. A list that makes sense has no column twice, and a
foreign key refers to as many columns as it has (`Listing.IsWellFormed`). The lists that this
library makes itself are of this kind. The key of several flagged columns has different columns
because the columns of the table have different names, and everything that a single column asks
for is a list of one (`isWellFormed_of_mem_derivedListings`).

The lists that are declared are the business of whoever declares them. They are written as they
are given. Of such a list the check of a table looks at no more than its outline
(`Listing.outline`), and neither the number of times that a column is listed is in it, nor the
number of columns that are referred to. So two tables with the same columns and with lists of
the same outlines are accepted or refused together (`IsSound.of_outlines`).
-/
import Mathlib.Data.Finset.Dedup
import SchemaSql.Proofs.Table.StringDefaults

set_option autoImplicit false

namespace SchemaSql

/-! ## Lists that make sense -/

/-- **A well-formed listing** lists no column twice, and a foreign key refers to as many columns as
it has. -/
def Listing.IsWellFormed (l : Listing) : Prop :=
  l.columns.Nodup ∧ ∀ references ∈ l.references, references.length = l.columns.length

instance : DecidablePred Listing.IsWellFormed := fun l =>
  inferInstanceAs (Decidable (l.columns.Nodup
    ∧ ∀ references ∈ l.references, references.length = l.columns.length))

/-- The listing of an element; a column has none. -/
def Element.listing? : Element → Option Listing
  | .column _ _ => none
  | .constraint k => k.rule.listing?

namespace Table

/-- The listings that come from what columns say about themselves. -/
def derivedListings (t : Table) : List Listing :=
  (t.compositeKey ++ t.columnReferences).filterMap (·.rule.listing?)
    ++ (t.columns.filter (·.index)).map fun c => (Index.forTable t.name [c.name] false).listing

/-- **The listings that are written**, in the CREATE TABLE statement and in those of the indexes. -/
def writtenListings (t : Table) : List Listing :=
  t.elements.filterMap Element.listing? ++ t.allIndexes.map Index.listing

theorem mem_writtenListings_iff {t : Table} {l : Listing} :
    l ∈ t.writtenListings ↔ l ∈ t.derivedListings ∨ l ∈ t.listings := by
  have hcolumns : ∀ (columns : List Column) (inlineKey : Column → Bool),
      (columns.map fun c => Element.column c (inlineKey c)).filterMap Element.listing? = [] := by
    intro columns inlineKey
    rw [List.filterMap_map, List.filterMap_eq_nil_iff]
    exact fun c _ => rfl
  have hconstraints : ∀ constraints : List Constraint,
      (constraints.map Element.constraint).filterMap Element.listing?
        = constraints.filterMap (·.rule.listing?) := by
    intro constraints
    rw [List.filterMap_map]
    rfl
  rw [writtenListings, elements, List.filterMap_append, hcolumns, hconstraints, allIndexes,
    derivedListings, listings]
  simp only [List.filterMap_append, List.map_append, List.mem_append, List.map_map, List.nil_append]
  tauto

/-- **What is derived is well-formed**, because the columns have different names. -/
theorem isWellFormed_of_mem_derivedListings {t : Table} (hnames : t.columnNames.Nodup) {l : Listing}
    (h : l ∈ t.derivedListings) : l.IsWellFormed := by
  rcases List.mem_append.mp h with hconstraint | hindex
  · obtain ⟨k, hk, hl⟩ := List.mem_filterMap.mp hconstraint
    rcases List.mem_append.mp hk with hkey | hreference
    · rw [compositeKey] at hkey
      by_cases hseveral : 1 < t.keyColumns.length
      · rw [if_pos hseveral, List.mem_singleton] at hkey
        subst hkey
        cases hl
        have hsub : t.keyColumnNames.Sublist t.columnNames :=
          List.filter_sublist.map Column.name
        exact ⟨hnames.sublist hsub, fun _ hreferences => by cases hreferences⟩
      · rw [if_neg hseveral] at hkey
        cases hkey
    · obtain ⟨c, -, hc⟩ := List.mem_filterMap.mp hreference
      obtain ⟨r, -, rfl⟩ := Option.map_eq_some_iff.mp hc
      cases hl
      exact ⟨List.nodup_singleton _, fun _ hreferences => by cases hreferences; rfl⟩
  · obtain ⟨c, -, rfl⟩ := List.mem_map.mp hindex
    exact ⟨List.nodup_singleton _, fun _ hreferences => by cases hreferences⟩

end Table

/-! ## Lists in a text -/

/-- What stands before a list of columns. -/
def ColumnList.opening : ColumnList → String
  | .primaryKey => "PRIMARY KEY ("
  | .unique => "UNIQUE ("
  | .foreignKey => "FOREIGN KEY ("
  | .index => " ("

/-- Whether a text has a list of names after an opening, and then the parenthesis that closes it. -/
def HasList (text opening : String) (names : List String) : Prop :=
  ∃ front back, text = front ++ opening ++ listed names ++ ")" ++ back

/-- **A text with a listing.** It has the columns after the opening of their kind and, of a foreign
key, the columns referred to. -/
structure HasListing (text : String) (l : Listing) : Prop where
  columns : HasList text l.kind.opening l.columns
  references : ∀ references ∈ l.references, HasList text "(" references

theorem HasList.append {text opening : String} {names : List String}
    (h : HasList text opening names) (front back : String) :
    HasList (front ++ text ++ back) opening names := by
  obtain ⟨front', back', rfl⟩ := h
  exact ⟨front ++ front', back' ++ back, by simp only [String.append_assoc]⟩

theorem HasListing.append {text : String} {l : Listing} (h : HasListing text l)
    (front back : String) : HasListing (front ++ text ++ back) l where
  columns := h.columns.append front back
  references := fun references hr => (h.references references hr).append front back

/-- A text that is a list and no more. -/
theorem hasList_self (opening : String) (names : List String) :
    HasList (opening ++ listed names ++ ")") opening names :=
  ⟨"", "", by rw [String.empty_append, String.append_empty]⟩

/-- A foreign key is written with its two lists. -/
theorem ForeignKey.hasList_sql (key : ForeignKey) :
    HasList key.sql "FOREIGN KEY (" key.columns ∧ HasList key.sql "(" key.references := by
  have hborder : ") REFERENCES " = ")" ++ " REFERENCES " := rfl
  constructor
  · refine ⟨"", " REFERENCES " ++ key.table ++ "(" ++ listed key.references ++ ")"
      ++ actionClause "DELETE" key.onDelete ++ actionClause "UPDATE" key.onUpdate, ?_⟩
    unfold ForeignKey.sql
    -- With a name for it the word is split by one rewrite, and no literals are compared.
    generalize ") REFERENCES " = border at hborder ⊢
    rw [hborder, String.empty_append]
    simp only [String.append_assoc]
  · refine ⟨"FOREIGN KEY (" ++ listed key.columns ++ ") REFERENCES " ++ key.table,
      actionClause "DELETE" key.onDelete ++ actionClause "UPDATE" key.onUpdate, ?_⟩
    unfold ForeignKey.sql
    simp only [String.append_assoc]

/-- A rule is written with its listing. -/
theorem Rule.hasListing_sql {rule : Rule} {l : Listing} (h : rule.listing? = some l) :
    HasListing rule.sql l := by
  cases rule with
  | primaryKey columns =>
    cases h
    exact ⟨hasList_self "PRIMARY KEY (" columns, fun _ hr => by cases hr⟩
  | unique columns =>
    cases h
    exact ⟨hasList_self "UNIQUE (" columns, fun _ hr => by cases hr⟩
  | foreignKey key =>
    cases h
    exact ⟨key.hasList_sql.1, fun _ hr => by cases hr; exact key.hasList_sql.2⟩
  | check expression => cases h

/-- An element is written with its listing. -/
theorem Element.hasListing_sql (d : Dialect) {e : Element} {l : Listing} (h : e.listing? = some l) :
    HasListing (e.sql d) l := by
  cases e with
  | column c inlineKey => cases h
  | constraint k =>
    obtain ⟨front, htext⟩ : ∃ front, (Element.constraint k).sql d = front ++ k.rule.sql ++ "" := by
      rw [Element.sql, Constraint.sql]
      cases k.name with
      | none => exact ⟨"", by rw [String.empty_append, String.append_empty]⟩
      | some name => exact ⟨"CONSTRAINT " ++ name ++ " ", by rw [String.append_empty]⟩
    rw [htext]
    exact (Rule.hasListing_sql h).append front ""

/-- The statement of an index is written with its listing. -/
theorem Index.hasListing_createStatement (table : String) (i : Index) :
    HasListing (i.createStatement table) i.listing := by
  have hborder : ");" = ")" ++ ";" := rfl
  refine ⟨⟨"CREATE " ++ (if i.unique then "UNIQUE " else "") ++ "INDEX " ++ i.name ++ " ON "
    ++ table, ";", ?_⟩, fun _ hr => by cases hr⟩
  unfold createStatement
  generalize ");" = border at hborder ⊢
  rw [hborder, listing, ColumnList.opening]
  simp only [String.append_assoc]

namespace Table

/-- **Every written listing is in the statements** of the table. -/
theorem exists_hasListing_of_mem_writtenListings {d : Dialect} {t : Table} {l : Listing}
    (h : l ∈ t.writtenListings) : ∃ s ∈ t.statements d, HasListing s l := by
  rcases List.mem_append.mp h with helement | hindex
  · obtain ⟨e, he, hl⟩ := List.mem_filterMap.mp helement
    obtain ⟨earlier, later, hsplit⟩ := List.append_of_mem he
    have htext : t.createStatement d
        = t.createHead ++ String.join ((earlier.map (·.sql d)).map (· ++ ", ")) ++ e.sql d
          ++ (String.join ((later.map (·.sql d)).map (", " ++ ·)) ++ ");") := by
      rw [createStatement, hsplit, List.map_append, List.map_cons, listed_append_cons]
      simp only [String.append_assoc]
    refine ⟨t.createStatement d, List.mem_cons_self, ?_⟩
    rw [htext]
    exact (Element.hasListing_sql d hl).append _ _
  · obtain ⟨i, hi, rfl⟩ := List.mem_map.mp hindex
    exact ⟨i.createStatement t.name, List.mem_cons_of_mem _ (List.mem_map_of_mem hi),
      i.hasListing_createStatement t.name⟩

end Table

/-! ## What the check looks at -/

/-- The outline of a column list. -/
@[ext] structure Outline where
  kind : ColumnList
  columns : Finset String
  /-- Whether a list is empty that must not be. -/
  isIncomplete : Bool

instance : DecidableEq Outline := fun _ _ => decidable_of_iff _ Outline.ext_iff.symm

/-- **The outline of a listing.** How often and in which order columns are listed is not in it, and
neither is to which columns of the other table a foreign key refers, or to how many. -/
def Listing.outline (l : Listing) : Outline where
  kind := l.kind
  columns := l.columns.toFinset
  isIncomplete := decide l.IsIncomplete

namespace Table

variable {d : Dialect} {t t' : Table}

/-- The outlines of a table. -/
def outlines (t : Table) : List Outline := t.listings.map Listing.outline

theorem mem_listings_of_mem_constraints {k : Constraint} {l : Listing} (hk : k ∈ t.constraints)
    (hl : k.rule.listing? = some l) : l ∈ t.listings :=
  List.mem_append_left _ (List.mem_filterMap.mpr ⟨k, hk, hl⟩)

/-- The declared keys are counted in the outlines. -/
theorem length_tableKeys (t : Table) :
    t.tableKeys.length = t.outlines.countP (·.kind = .primaryKey) := by
  have hindexes : ∀ indexes : List Index,
      ((indexes.map Index.listing).map Listing.outline).countP (·.kind = .primaryKey) = 0 := by
    intro indexes
    rw [List.countP_eq_zero]
    simp [Listing.outline, Index.listing]
  rw [outlines, listings, List.map_append, List.countP_append, hindexes, Nat.add_zero, tableKeys,
    ← List.countP_eq_length_filter, List.countP_map, List.countP_filterMap]
  refine List.countP_congr fun k _ => ?_
  obtain ⟨name, columns | columns | key | expression⟩ := k
  all_goals simp [Rule.isPrimaryKey, Rule.listing?, Listing.outline]

/-- Whether a column is in the primary key can be told from the outlines. -/
theorem inPrimaryKey_iff {c : Column} :
    t.InPrimaryKey c
      ↔ c.primaryKey = true ∨ ∃ o ∈ t.outlines, o.kind = .primaryKey ∧ c.name ∈ o.columns := by
  refine or_congr_right ⟨?_, ?_⟩
  · rintro ⟨k, hk, columns, hrule, hname⟩
    have hl : k.rule.listing? = some { kind := .primaryKey, columns } := by
      rw [hrule]
      rfl
    exact ⟨_, List.mem_map_of_mem (mem_listings_of_mem_constraints hk hl), rfl,
      List.mem_toFinset.mpr hname⟩
  · rintro ⟨o, ho, hkind, hname⟩
    obtain ⟨l, hl, rfl⟩ := List.mem_map.mp ho
    rcases List.mem_append.mp hl with hconstraint | hindex
    · obtain ⟨k, hk, hlisting⟩ := List.mem_filterMap.mp hconstraint
      cases hrule : k.rule with
      | primaryKey columns =>
        rw [hrule] at hlisting
        cases hlisting
        exact ⟨k, hk, columns, hrule, List.mem_toFinset.mp hname⟩
      | _ =>
        rw [hrule] at hlisting
        cases hlisting <;> cases hkind
    · obtain ⟨i, -, rfl⟩ := List.mem_map.mp hindex
      cases hkind

/-- The rules about lists are rules about outlines. -/
theorem columnListFlaw?_eq_none_iff :
    t.columnListFlaw? = none
      ↔ ∀ o ∈ t.outlines, o.isIncomplete = false ∧ ∀ name ∈ o.columns, name ∈ t.columnNames := by
  rw [columnListFlaw?_eq, List.findSome?_eq_none_iff, outlines, List.forall_mem_map]
  simp only [listingFlaw?_eq_none_iff, Listing.outline, decide_eq_false_iff_not, List.mem_toFinset]

/-- **Tables with the same outlines** are sound together. -/
theorem IsSound.of_outlines (h : t.IsSound d) (hcolumns : t'.columns = t.columns)
    (houtlines : t'.outlines = t.outlines) : t'.IsSound d := by
  have hnames : t'.columnNames = t.columnNames := congrArg (List.map Column.name) hcolumns
  have hauto : t'.autoincrementColumns = t.autoincrementColumns :=
    congrArg (List.filter Column.autoincrement) hcolumns
  have hkeys : t'.tableKeys.length = t.tableKeys.length := by
    rw [length_tableKeys, length_tableKeys, houtlines]
  have hlists : t'.columnListFlaw? = none := by
    rw [columnListFlaw?_eq_none_iff, houtlines, hnames]
    exact columnListFlaw?_eq_none_iff.mp h.columnListFlaw?_eq_none
  rw [columnListFlaw?, Option.or_eq_none_iff, List.findSome?_eq_none_iff,
    List.findSome?_eq_none_iff] at hlists
  refine
    { hasColumn := hcolumns ▸ h.hasColumn
      distinctNames := hnames ▸ h.distinctNames
      oneDeclaredKey := hkeys ▸ h.oneDeclaredKey
      oneKindOfKey := fun hflagged => ?_
      oneAutoincrement := hauto ▸ h.oneAutoincrement
      autoincrementType := hcolumns ▸ h.autoincrementType
      autoincrementDefault := hcolumns ▸ h.autoincrementDefault
      autoincrementKeyed := fun c hc hnumbers hd => ?_
      autoincrementSoleKey := fun c hc hnumbers hd => ?_
      constraintColumns := fun k hk => (constraintFlaw?_eq_none_iff.mp (hlists.1 k hk)).1
      foreignKeyReferences := fun k hk => (constraintFlaw?_eq_none_iff.mp (hlists.1 k hk)).2
      indexColumns := fun i hi => indexFlaw?_eq_none_iff.mp (hlists.2 i hi) }
  · rw [hcolumns] at hflagged
    rw [← List.length_eq_zero_iff, hkeys, h.oneKindOfKey hflagged, List.length_nil]
  · rw [hcolumns] at hc
    rw [inPrimaryKey_iff, houtlines, ← inPrimaryKey_iff]
    exact h.autoincrementKeyed c hc hnumbers hd
  · rw [hcolumns] at hc
    rw [IsSoleKey, hcolumns]
    exact h.autoincrementSoleKey c hc hnumbers hd

/-! ## The lists of an accepted table -/

/-- **What is known of the lists of an accepted table.** Every list is in one of the statements.
Those that come from columns are well-formed, and so all are exactly if the declared ones are. Of a
declared list no more than the outline counts: a table with the same columns and the same outlines
is accepted as well. -/
theorem written_lists_are_well_formed_iff {sql : String} (h : t.script d = .ok sql) :
    (∀ l ∈ t.writtenListings, ∃ s ∈ Script.statements sql, HasListing s l)
      ∧ (∀ l ∈ t.derivedListings, l.IsWellFormed)
      ∧ ((∀ l ∈ t.writtenListings, l.IsWellFormed) ↔ ∀ l ∈ t.listings, l.IsWellFormed)
      ∧ ∀ t' : Table, t'.columns = t.columns → t'.outlines = t.outlines →
          ∃ sql', t'.script d = .ok sql' := by
  have hsound : t.IsSound d := exists_script_iff.mp ⟨sql, h⟩
  have hderived : ∀ l ∈ t.derivedListings, l.IsWellFormed :=
    fun l hl => isWellFormed_of_mem_derivedListings hsound.distinctNames hl
  refine ⟨fun l hl => ?_, hderived, ?_, ?_⟩
  · obtain ⟨-, rfl⟩ := script_eq_ok_iff.mp h
    rw [statements_ofStatements]
    exact exists_hasListing_of_mem_writtenListings hl
  · constructor
    · exact fun hall l hl => hall l (mem_writtenListings_iff.mpr (.inr hl))
    · intro hdeclared l hl
      exact (mem_writtenListings_iff.mp hl).elim (hderived l) (hdeclared l)
  · exact fun t' hcolumns houtlines =>
      exists_script_iff.mpr (hsound.of_outlines hcolumns houtlines)

/-- A table with lists of every kind. -/
def bookings : Table where
  name := "bookings"
  columns :=
    [{ name := "show", type := .integer, primaryKey := true
       references := some { table := "shows", column := "id" } },
     { name := "seat", type := .text, primaryKey := true },
     { name := "guest", type := .text, index := true }]
  constraints :=
    [{ rule := .unique ["show", "guest"] },
     { rule := .foreignKey
        { columns := ["show", "seat"], table := "seats", references := ["show", "number"] } }]
  indexes := [Index.forTable "bookings" ["guest", "seat"] false]

/-- The same table with the lists in disorder. -/
def carelessBookings : Table where
  name := "bookings"
  columns := bookings.columns
  constraints :=
    [{ rule := .unique ["guest", "show", "guest"] },
     { rule := .foreignKey
        { columns := ["seat", "show"], table := "seats", references := ["id"] } }]
  indexes := [Index.forTable "bookings" ["seat", "seat", "guest"] false]

theorem bookings_lists_are_well_formed :
    bookings.script .sqlite = .ok (Script.ofStatements (bookings.statements .sqlite))
      ∧ bookings.writtenListings.map Listing.columns
          = [["show", "seat"], ["show"], ["show", "guest"], ["show", "seat"], ["guest"],
            ["guest", "seat"]]
      ∧ (∀ l ∈ bookings.writtenListings, l.IsWellFormed)
      ∧ carelessBookings.columns = bookings.columns
      ∧ carelessBookings.outlines = bookings.outlines
      ∧ ∃ sql, carelessBookings.script .sqlite = .ok sql := by
  have hscript : bookings.script .sqlite
      = .ok (Script.ofStatements (bookings.statements .sqlite)) :=
    script_eq_ok_iff.mpr ⟨by decide +kernel, rfl⟩
  have hdeclared : ∀ l ∈ bookings.listings, l.IsWellFormed := by decide
  have houtlines : carelessBookings.outlines = bookings.outlines := by decide +kernel
  obtain ⟨-, -, hall, hsame⟩ := written_lists_are_well_formed_iff hscript
  exact ⟨hscript, by decide, hall.mpr hdeclared, rfl, houtlines,
    hsame carelessBookings rfl houtlines⟩

/-- A key and an index that repeat a column, and a foreign key to more columns than it has. -/
def ticketSteps : List Step :=
  [.column "show" .text [], .column "seat" .text [], .primaryKey ["seat", "seat"],
    .foreign ["show"] "shows" ["hall", "day"] [], .index ["seat", "seat"] false]

/-- Lists that are not well-formed are written as they were given. -/
theorem ticket_lists_are_not_well_formed :
    (ofSteps "tickets" ticketSteps).script .postgres = .ok (Script.ofStatements
        ["CREATE TABLE tickets (show TEXT, seat TEXT, PRIMARY KEY (seat, seat), "
            ++ "FOREIGN KEY (show) REFERENCES shows(hall, day));",
          "CREATE INDEX tickets_seat_seat_index ON tickets (seat, seat);"])
      ∧ ∀ l ∈ (ofSteps "tickets" ticketSteps).writtenListings, ¬l.IsWellFormed := by
  refine ⟨script_eq_ok_iff.mpr ⟨by decide +kernel, congrArg Script.ofStatements ?_⟩, ?_⟩
  · decide +kernel
  · decide +kernel

end Table

end SchemaSql
