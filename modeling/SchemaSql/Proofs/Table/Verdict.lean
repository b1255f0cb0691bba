/-
What the check of a table answers.

The check accepts exactly the sound tables, and its error is always the broken rule of
the lowest rank, with the column that this rule names. Both are put together from one
law for each rule, which says when that rule alone gives an error
(`emptyFlaw?_eq_some_iff` and those after it). A rule is followed by the next one through
`Option.or`, and `FirstFrom.or` is the step that adds a rule in front of a sequence that
is known already.

Three rules need more than their definition. The first repeated name is found by a search
with a memory of the names before, and the law generalises over that memory
(`firstRepeat?_eq_some_iff`). The rules about auto-increment are one nested conditional
in the check; `autoincrementFlaw?_or` unfolds it into four rules about the only
auto-increment column (`solely?`). And constraints and indexes are searched one after the
other, which is one search through all listings (`columnListFlaw?_eq`).
-/
import SchemaSql.Proofs.Table.Rules
import SchemaSql.Proofs.Table.Script

set_option autoImplicit false

namespace SchemaSql.Table

variable {d : Dialect} {t : Table} {e : DefinitionError}

/-! ## Names -/

/-- **The first repeated name**, where the names in `seen` count as names before the list. -/
theorem firstRepeat?_eq_some_iff {seen names : List String} {name : String} :
    firstRepeat? seen names = some name ↔ ∃ before after, names = before ++ name :: after
      ∧ before.Nodup ∧ (∀ b ∈ before, b ∉ seen) ∧ (name ∈ before ∨ name ∈ seen) := by
  induction names generalizing seen with
  | nil => simp [firstRepeat?]
  | cons first rest ih =>
    by_cases hseen : first ∈ seen
    · rw [firstRepeat?, if_pos hseen, Option.some.injEq]
      constructor
      · rintro rfl
        exact ⟨[], rest, rfl, List.nodup_nil, by simp, Or.inr hseen⟩
      · rintro ⟨before, after, hsplit, -, hfresh, -⟩
        rcases before with _ | ⟨b, before⟩
        · exact (List.cons.inj hsplit).1
        · obtain ⟨rfl, -⟩ := List.cons.inj hsplit
          exact absurd hseen (hfresh first List.mem_cons_self)
    · -- The first name moves from the list into the memory.
      have hmove : ∀ before : List String, (name ∈ first :: before ∨ name ∈ seen)
          ↔ (name ∈ before ∨ name ∈ first :: seen) := by
        intro before
        rw [List.mem_cons, List.mem_cons, or_assoc, or_left_comm]
      rw [firstRepeat?, if_neg hseen, ih]
      constructor
      · rintro ⟨before, after, rfl, hnodup, hfresh, hrepeat⟩
        have hfirst : first ∉ before := fun h => hfresh first h List.mem_cons_self
        refine ⟨first :: before, after, rfl, List.nodup_cons.mpr ⟨hfirst, hnodup⟩, ?_,
          (hmove before).mpr hrepeat⟩
        intro b hb
        rcases List.mem_cons.mp hb with rfl | hb
        · exact hseen
        · exact fun h => hfresh b hb (List.mem_cons_of_mem first h)
      · rintro ⟨before, after, hsplit, hnodup, hfresh, hrepeat⟩
        rcases before with _ | ⟨b, before⟩
        · obtain ⟨rfl, -⟩ := List.cons.inj hsplit
          exact absurd hrepeat (by simpa using hseen)
        · obtain ⟨rfl, hrest⟩ := List.cons.inj hsplit
          obtain ⟨hfirst, hnodup⟩ := List.nodup_cons.mp hnodup
          refine ⟨before, after, hrest, hnodup, ?_, (hmove before).mp hrepeat⟩
          intro b hb h
          rcases List.mem_cons.mp h with rfl | h
          · exact hfirst hb
          · exact hfresh b (List.mem_cons_of_mem first hb) h

/-- No name is repeated where none stands twice and none stands in `seen`. -/
theorem firstRepeat?_eq_none_iff {seen names : List String} :
    firstRepeat? seen names = none ↔ names.Nodup ∧ ∀ name ∈ names, name ∉ seen := by
  induction names generalizing seen with
  | nil => simp [firstRepeat?]
  | cons first rest ih =>
    by_cases hseen : first ∈ seen
    · simp [firstRepeat?, hseen]
    · rw [firstRepeat?, if_neg hseen, ih, List.nodup_cons]
      simp only [List.mem_cons, not_or, forall_eq_or_imp]
      constructor
      · rintro ⟨hnodup, hfresh⟩
        exact ⟨⟨fun h => (hfresh first h).1 rfl, hnodup⟩, hseen, fun x hx => (hfresh x hx).2⟩
      · rintro ⟨⟨hfirst, hnodup⟩, -, hfresh⟩
        exact ⟨hnodup, fun x hx => ⟨fun h => hfirst (h ▸ hx), hfresh x hx⟩⟩

/-! ## One rule at a time -/

theorem emptyFlaw?_eq_some_iff : t.emptyFlaw? = some e ↔ t.Breaks d e ∧ e.rank = 0 := by
  rw [emptyFlaw?, Option.ite_none_right_eq_some, List.isEmpty_iff, Option.some.injEq]
  constructor
  · rintro ⟨hcolumns, rfl⟩
    exact ⟨⟨rfl, hcolumns⟩, rfl⟩
  · rintro ⟨hbreaks, hrank⟩
    cases e with
    | noColumns table => exact ⟨hbreaks.2, by rw [hbreaks.1]⟩
    | _ => cases hrank

theorem nameFlaw?_eq_some_iff : t.nameFlaw? = some e ↔ t.Breaks d e ∧ e.rank = 1 := by
  rw [nameFlaw?, Option.map_eq_some_iff]
  constructor
  · rintro ⟨name, hname, rfl⟩
    obtain ⟨before, after, hsplit, hnodup, -, hrepeat⟩ := firstRepeat?_eq_some_iff.mp hname
    exact ⟨⟨rfl, before, after, hsplit, hnodup, by simpa using hrepeat⟩, rfl⟩
  · rintro ⟨hbreaks, hrank⟩
    cases e with
    | duplicateColumn table column =>
      obtain ⟨rfl, before, after, hsplit, hnodup, hrepeat⟩ := hbreaks
      refine ⟨column, firstRepeat?_eq_some_iff.mpr ?_, rfl⟩
      exact ⟨before, after, hsplit, hnodup, by simp, Or.inl hrepeat⟩
    | _ => cases hrank

/-- Two declared keys, or a declared key and a flagged column. -/
theorem severalKeys_iff : (1 < t.tableKeys.length ∨ t.tableKeys ≠ [] ∧ t.keyColumns ≠ [])
    ↔ (1 < t.tableKeys.length
        ∨ t.tableKeys.length = 1 ∧ ∃ c ∈ t.columns, c.primaryKey = true) := by
  have hflagged : t.keyColumns ≠ [] ↔ ∃ c ∈ t.columns, c.primaryKey = true := by
    rw [keyColumns, ne_eq, List.filter_eq_nil_iff]
    simp
  rw [hflagged, ← List.length_pos_iff]
  constructor
  · rintro (hmany | ⟨hkey, hcolumn⟩)
    · exact Or.inl hmany
    · by_cases hmany : 1 < t.tableKeys.length
      · exact Or.inl hmany
      · exact Or.inr ⟨by omega, hcolumn⟩
  · rintro (hmany | ⟨hkey, hcolumn⟩)
    · exact Or.inl hmany
    · exact Or.inr ⟨by omega, hcolumn⟩

theorem keyFlaw?_eq_some_iff : t.keyFlaw? = some e ↔ t.Breaks d e ∧ e.rank = 2 := by
  rw [keyFlaw?, Option.ite_none_right_eq_some, severalKeys_iff, Option.some.injEq]
  constructor
  · rintro ⟨hkeys, rfl⟩
    exact ⟨⟨rfl, hkeys⟩, rfl⟩
  · rintro ⟨hbreaks, hrank⟩
    cases e with
    | severalPrimaryKeys table => exact ⟨hbreaks.2, by rw [hbreaks.1]⟩
    | _ => cases hrank

/-! ## Auto-increment -/

/-- More than one auto-increment column. -/
def severalFlaw? (t : Table) : Option DefinitionError :=
  if 1 < t.autoincrementColumns.length then some (.severalAutoincrement t.name) else none

/-- **A rule about the only auto-increment column.** Where there is none, or more than one, it says
nothing. -/
def solely? (t : Table) (isBroken : Column → Bool) (error : Column → DefinitionError) :
    Option DefinitionError :=
  match t.autoincrementColumns with
  | [c] => if isBroken c then some (error c) else none
  | _ => none

/-- The column has an integer type. -/
def typeFlaw? (t : Table) : Option DefinitionError :=
  t.solely? (fun c => !c.type.isInteger) fun c => .autoincrementType t.name c.name c.type

/-- The column has no default. -/
def defaultFlaw? (t : Table) : Option DefinitionError :=
  t.solely? (·.default.isSome) fun c => .autoincrementDefault t.name c.name

/-- The column is in the primary key, where the dialect asks for that. -/
def keyedFlaw? (d : Dialect) (t : Table) : Option DefinitionError :=
  t.solely? (fun c => d.requiresKeyedAutoincrement && !t.isKeyed c)
    fun c => .autoincrementNoKey t.name c.name d

/-- The column is the whole primary key, where the dialect asks for that. -/
def soleKeyFlaw? (d : Dialect) (t : Table) : Option DefinitionError :=
  t.solely?
    (fun c => d.requiresSoleKeyAutoincrement && (!c.primaryKey || 1 < t.keyColumns.length))
    fun c => .autoincrementNotSoleKey t.name c.name d

theorem solely?_eq_some_iff {isBroken : Column → Bool} {error : Column → DefinitionError} :
    t.solely? isBroken error = some e
      ↔ ∃ c, t.autoincrementColumns = [c] ∧ isBroken c = true ∧ error c = e := by
  rw [solely?]
  rcases t.autoincrementColumns with _ | ⟨c, _ | ⟨c', rest⟩⟩
  · simp
  · simp [Option.ite_none_right_eq_some]
  · simp

/-- An alternative after a conditional is asked where the condition fails. -/
theorem ite_some_or {p : Prop} [Decidable p] (x o : Option DefinitionError) :
    (if p then some e else x).or o = (if p then some e else none).or (x.or o) := by
  by_cases hp : p
  · rw [if_pos hp, if_pos hp, Option.some_or, Option.some_or]
  · rw [if_neg hp, if_neg hp, Option.none_or]

/-- The rules about auto-increment, one after the other. -/
theorem autoincrementFlaw?_or (o : Option DefinitionError) :
    (t.autoincrementFlaw? d).or o
      = t.severalFlaw?.or (t.typeFlaw?.or (t.defaultFlaw?.or
          ((t.keyedFlaw? d).or ((t.soleKeyFlaw? d).or o)))) := by
  simp only [autoincrementFlaw?, severalFlaw?, typeFlaw?, defaultFlaw?, keyedFlaw?, soleKeyFlaw?,
    solely?]
  rcases t.autoincrementColumns with _ | ⟨c, _ | ⟨c', rest⟩⟩
  · simp
  · simp only [autoincrementColumnFlaw?, ite_some_or, List.length_singleton, Nat.lt_irrefl,
      if_false, Option.none_or]
  · simp

theorem requiresKeyed_iff : d.requiresKeyedAutoincrement = true ↔ d = .mysql ∨ d = .sqlite := by
  cases d <;> decide

theorem requiresSoleKey_iff : d.requiresSoleKeyAutoincrement = true ↔ d = .sqlite := by
  cases d <;> decide

theorem isKeyed_iff {c : Column} : t.isKeyed c = true ↔ t.InPrimaryKey c := by
  rw [isKeyed, Bool.or_eq_true, List.any_eq_true, InPrimaryKey]
  refine or_congr_right ⟨?_, ?_⟩
  · rintro ⟨k, hk, hname⟩
    obtain ⟨hmem, hkey⟩ := List.mem_filter.mp hk
    cases hrule : k.rule with
    | primaryKey columns =>
      rw [Constraint.columns, hrule, List.contains_iff_mem] at hname
      exact ⟨k, hmem, columns, hrule, hname⟩
    | _ =>
      rw [hrule] at hkey
      cases hkey
  · rintro ⟨k, hmem, columns, hrule, hname⟩
    refine ⟨k, List.mem_filter.mpr ⟨hmem, by rw [hrule]; rfl⟩, ?_⟩
    rw [Constraint.columns, hrule, List.contains_iff_mem]
    exact hname

theorem isSoleKey_iff {c : Column} (hc : c ∈ t.columns) :
    t.IsSoleKey c ↔ c.primaryKey = true ∧ t.keyColumns.length ≤ 1 := by
  have hmem : c ∈ t.keyColumns ↔ c.primaryKey = true := by
    rw [keyColumns, List.mem_filter]
    exact and_iff_right hc
  rw [← hmem, IsSoleKey, ← keyColumns]
  rcases t.keyColumns with _ | ⟨k, _ | ⟨k', rest⟩⟩
  · simp
  · simp [eq_comm]
  · simp

/-- An auto-increment column that stands alone is a column of the table. -/
theorem mem_columns_of_autoincrementColumns {c : Column} (h : t.autoincrementColumns = [c]) :
    c ∈ t.columns ∧ c.autoincrement = true := by
  have hmem : c ∈ t.columns.filter (·.autoincrement) := by
    rw [← autoincrementColumns, h]
    exact List.mem_singleton_self c
  exact List.mem_filter.mp hmem

theorem severalFlaw?_eq_some_iff : t.severalFlaw? = some e ↔ t.Breaks d e ∧ e.rank = 3 := by
  rw [severalFlaw?, Option.ite_none_right_eq_some, Option.some.injEq]
  constructor
  · rintro ⟨hmany, rfl⟩
    exact ⟨⟨rfl, hmany⟩, rfl⟩
  · rintro ⟨hbreaks, hrank⟩
    cases e with
    | severalAutoincrement table => exact ⟨hbreaks.2, by rw [hbreaks.1]⟩
    | _ => cases hrank

theorem typeFlaw?_eq_some_iff : t.typeFlaw? = some e ↔ t.Breaks d e ∧ e.rank = 4 := by
  rw [typeFlaw?, solely?_eq_some_iff]
  constructor
  · rintro ⟨c, hc, htype, rfl⟩
    exact ⟨⟨rfl, c, hc, rfl, rfl, by simpa using htype⟩, rfl⟩
  · rintro ⟨hbreaks, hrank⟩
    cases e with
    | autoincrementType table column type =>
      obtain ⟨rfl, c, hc, rfl, rfl, htype⟩ := hbreaks
      exact ⟨c, hc, by simpa using htype, rfl⟩
    | _ => cases hrank

theorem defaultFlaw?_eq_some_iff : t.defaultFlaw? = some e ↔ t.Breaks d e ∧ e.rank = 5 := by
  rw [defaultFlaw?, solely?_eq_some_iff]
  constructor
  · rintro ⟨c, hc, hdefault, rfl⟩
    exact ⟨⟨rfl, c, hc, rfl, Option.isSome_iff_ne_none.mp hdefault⟩, rfl⟩
  · rintro ⟨hbreaks, hrank⟩
    cases e with
    | autoincrementDefault table column =>
      obtain ⟨rfl, c, hc, rfl, hdefault⟩ := hbreaks
      exact ⟨c, hc, Option.isSome_iff_ne_none.mpr hdefault, rfl⟩
    | _ => cases hrank

/-- What breaks the third rule about the column. -/
theorem lacksKey_iff {c : Column} : (d.requiresKeyedAutoincrement && !t.isKeyed c) = true
    ↔ (d = .mysql ∨ d = .sqlite) ∧ ¬t.InPrimaryKey c := by
  rw [Bool.and_eq_true, requiresKeyed_iff, Bool.not_eq_true', ← Bool.not_eq_true, isKeyed_iff]

theorem keyedFlaw?_eq_some_iff : t.keyedFlaw? d = some e ↔ t.Breaks d e ∧ e.rank = 6 := by
  simp only [keyedFlaw?, solely?_eq_some_iff, lacksKey_iff]
  constructor
  · rintro ⟨c, hc, ⟨hd, hkey⟩, rfl⟩
    exact ⟨⟨rfl, rfl, hd, c, hc, rfl, hkey⟩, rfl⟩
  · rintro ⟨hbreaks, hrank⟩
    cases e with
    | autoincrementNoKey table column dialect =>
      obtain ⟨rfl, rfl, hd, c, hc, rfl, hkey⟩ := hbreaks
      exact ⟨c, hc, ⟨hd, hkey⟩, rfl⟩
    | _ => cases hrank

/-- What breaks the fourth rule about the column. -/
theorem lacksSoleKey_iff {c : Column} (hc : c ∈ t.columns) :
    (d.requiresSoleKeyAutoincrement && (!c.primaryKey || 1 < t.keyColumns.length)) = true
      ↔ d = .sqlite ∧ ¬t.IsSoleKey c := by
  rw [Bool.and_eq_true, requiresSoleKey_iff, isSoleKey_iff hc, Bool.or_eq_true,
    Bool.not_eq_true', decide_eq_true_eq, Decidable.not_and_iff_not_or_not, Bool.not_eq_true,
    Nat.not_le]

theorem soleKeyFlaw?_eq_some_iff : t.soleKeyFlaw? d = some e ↔ t.Breaks d e ∧ e.rank = 7 := by
  have hcolumn : ∀ c, t.autoincrementColumns = [c] → c ∈ t.columns :=
    fun c hc => (mem_columns_of_autoincrementColumns hc).1
  rw [soleKeyFlaw?, solely?_eq_some_iff]
  constructor
  · rintro ⟨c, hc, hkey, rfl⟩
    obtain ⟨hd, hkey⟩ := (lacksSoleKey_iff (hcolumn c hc)).mp hkey
    exact ⟨⟨rfl, rfl, hd, c, hc, rfl, hkey⟩, rfl⟩
  · rintro ⟨hbreaks, hrank⟩
    cases e with
    | autoincrementNotSoleKey table column dialect =>
      obtain ⟨rfl, rfl, hd, c, hc, rfl, hkey⟩ := hbreaks
      exact ⟨c, hc, (lacksSoleKey_iff (hcolumn c hc)).mpr ⟨hd, hkey⟩, rfl⟩
    | _ => cases hrank

/-! ## Column lists -/

/-- The error of one listing. -/
def listingFlaw? (t : Table) (l : Listing) : Option DefinitionError :=
  if l.IsIncomplete then some (.emptyColumnList t.name l.kind) else t.unknownColumnFlaw? l.columns

theorem listingFlaw?_eq_some_iff {l : Listing} : t.listingFlaw? l = some e ↔ l.HasFault t e := by
  rw [listingFlaw?]
  by_cases hl : l.IsIncomplete
  · rw [if_pos hl, Option.some.injEq]
    constructor
    · rintro rfl
      exact ⟨rfl, rfl, hl⟩
    · intro hfault
      cases e with
      | emptyColumnList table kind => rw [hfault.1, hfault.2.1]
      | unknownColumn table column => exact absurd hl hfault.2.1
      | _ => exact hfault.elim
  · rw [if_neg hl, unknownColumnFlaw?, Option.map_eq_some_iff]
    simp only [List.find?_eq_some_iff_append, Bool.not_not, Bool.not_eq_true',
      ← Bool.not_eq_true, List.contains_iff_mem]
    constructor
    · rintro ⟨column, ⟨hcolumn, hsplit⟩, rfl⟩
      exact ⟨rfl, hl, hcolumn, hsplit⟩
    · intro hfault
      cases e with
      | emptyColumnList table kind => exact absurd hfault.2.2 hl
      | unknownColumn table column =>
        obtain ⟨rfl, -, hcolumn, hsplit⟩ := hfault
        exact ⟨column, ⟨hcolumn, hsplit⟩, rfl⟩
      | _ => exact hfault.elim

/-- A listing without an error is complete and lists columns of the table. -/
theorem listingFlaw?_eq_none_iff {l : Listing} :
    t.listingFlaw? l = none ↔ ¬l.IsIncomplete ∧ ∀ name ∈ l.columns, name ∈ t.columnNames := by
  rw [listingFlaw?]
  by_cases hl : l.IsIncomplete
  · simp [hl]
  · simp [hl, unknownColumnFlaw?]

theorem constraintFlaw?_eq (k : Constraint) :
    t.constraintFlaw? k = k.rule.listing?.bind t.listingFlaw? := by
  obtain ⟨name, columns | columns | key | expression⟩ := k
  all_goals
    simp [constraintFlaw?, Rule.columnList?, Rule.hasEmptyList, Rule.listing?, listingFlaw?,
      Listing.IsIncomplete, Constraint.columns, Rule.columns]

theorem indexFlaw?_eq (i : Index) : t.indexFlaw? i = t.listingFlaw? i.listing := by
  simp [indexFlaw?, listingFlaw?, Listing.IsIncomplete, Index.listing]

/-- Constraints and indexes are one sequence of listings. -/
theorem columnListFlaw?_eq : t.columnListFlaw? = t.listings.findSome? t.listingFlaw? := by
  have hconstraints : ∀ constraints : List Constraint, constraints.findSome? t.constraintFlaw?
      = (constraints.filterMap (·.rule.listing?)).findSome? t.listingFlaw? := by
    intro constraints
    induction constraints with
    | nil => rfl
    | cons k rest ih =>
      rw [List.findSome?_cons, constraintFlaw?_eq, ih, List.filterMap_cons]
      rcases k.rule.listing? with _ | l
      · rfl
      · rfl
  have hindexes : t.indexes.findSome? t.indexFlaw?
      = (t.indexes.map Index.listing).findSome? t.listingFlaw? := by
    rw [List.findSome?_map]
    exact congrArg (List.findSome? · t.indexes) (funext indexFlaw?_eq)
  rw [columnListFlaw?, listings, List.findSome?_append, hconstraints, hindexes]

theorem columnListFlaw?_eq_some_iff : t.columnListFlaw? = some e ↔ t.Breaks d e ∧ e.rank = 8 := by
  have hfirst : t.columnListFlaw? = some e ↔ ∃ before l after,
      t.listings = before ++ l :: after ∧ l.HasFault t e
        ∧ ∀ b ∈ before, ∀ e', ¬b.HasFault t e' := by
    simp only [columnListFlaw?_eq, List.findSome?_eq_some_iff, Option.eq_none_iff_forall_ne_some,
      ne_eq, listingFlaw?_eq_some_iff]
  rw [hfirst]
  constructor
  · rintro ⟨before, l, after, hsplit, hfault, hbefore⟩
    cases e with
    | emptyColumnList table kind => exact ⟨⟨before, l, after, hsplit, hfault, hbefore⟩, rfl⟩
    | unknownColumn table column => exact ⟨⟨before, l, after, hsplit, hfault, hbefore⟩, rfl⟩
    | _ => exact hfault.elim
  · rintro ⟨hbreaks, hrank⟩
    cases e with
    | emptyColumnList table kind => exact hbreaks
    | unknownColumn table column => exact hbreaks
    | _ => cases hrank

/-! ## The first broken rule -/

/-- Whether an answer is the first broken rule among those from a rank on. -/
def FirstFrom (broken : DefinitionError → Prop) (rank : Nat) (answer : Option DefinitionError) :
    Prop :=
  ∀ e, answer = some e
    ↔ broken e ∧ rank ≤ e.rank ∧ ∀ e', broken e' → rank ≤ e'.rank → e.rank ≤ e'.rank

/-- **A rule in front.** Where the rules after a rank are known to give the first broken one, so do
they with the rule of that rank in front of them. -/
theorem FirstFrom.or {broken : DefinitionError → Prop} {rank : Nat}
    {rule later : Option DefinitionError}
    (hrule : ∀ e, rule = some e ↔ broken e ∧ e.rank = rank)
    (hlater : FirstFrom broken (rank + 1) later) : FirstFrom broken rank (rule.or later) := by
  intro e
  rcases hr : rule with _ | e₁
  · -- The rule is kept. Then no broken rule has its rank, and the least of the others is the least.
    have hnone : ∀ e, broken e → e.rank ≠ rank := by
      intro e he hrank
      have hsome := (hrule e).mpr ⟨he, hrank⟩
      rw [hr] at hsome
      cases hsome
    rw [Option.none_or, hlater e]
    constructor
    · rintro ⟨he, hge, hleast⟩
      refine ⟨he, by omega, fun e' he' hge' => hleast e' he' ?_⟩
      have := hnone e' he'
      omega
    · rintro ⟨he, hge, hleast⟩
      have := hnone e he
      exact ⟨he, by omega, fun e' he' hge' => hleast e' he' (by omega)⟩
  · -- The rule is broken. Its error has the least rank there is, and no other one has this rank.
    obtain ⟨hbroken, hrank⟩ := (hrule e₁).mp hr
    rw [Option.some_or, Option.some.injEq]
    constructor
    · rintro rfl
      exact ⟨hbroken, by omega, fun e' _ hge' => by omega⟩
    · rintro ⟨he, hge, hleast⟩
      have hle := hleast e₁ hbroken (by omega)
      have hsome := (hrule e).mpr ⟨he, by omega⟩
      rw [hr, Option.some.injEq] at hsome
      exact hsome

/-- The rules about column lists are the last ones. -/
theorem Breaks.rank_le (h : t.Breaks d e) : e.rank ≤ 8 := by
  cases e with
  | noTables => exact h.elim
  | _ => simp [DefinitionError.rank]

/-- **The answer is the first broken rule.** -/
theorem flaw?_eq_some_iff :
    t.flaw? d = some e ↔ t.Breaks d e ∧ ∀ e', t.Breaks d e' → e.rank ≤ e'.rank := by
  have hlists : FirstFrom (t.Breaks d) 8 t.columnListFlaw? := by
    intro e
    rw [columnListFlaw?_eq_some_iff (d := d)]
    constructor
    · rintro ⟨he, hrank⟩
      exact ⟨he, by omega, fun e' _ hge' => by omega⟩
    · rintro ⟨he, hge, -⟩
      have := he.rank_le
      exact ⟨he, by omega⟩
  have hall : FirstFrom (t.Breaks d) 0 (t.flaw? d) := by
    rw [flaw?, autoincrementFlaw?_or]
    refine .or (fun _ => emptyFlaw?_eq_some_iff) (.or (fun _ => nameFlaw?_eq_some_iff)
      (.or (fun _ => keyFlaw?_eq_some_iff) (.or (fun _ => severalFlaw?_eq_some_iff)
      (.or (fun _ => typeFlaw?_eq_some_iff) (.or (fun _ => defaultFlaw?_eq_some_iff)
      (.or (fun _ => keyedFlaw?_eq_some_iff) (.or (fun _ => soleKeyFlaw?_eq_some_iff) ?_)))))))
    exact hlists
  rw [hall e]
  simp

/-! ## Accepted tables -/

theorem emptyFlaw?_eq_none_iff : t.emptyFlaw? = none ↔ t.columns ≠ [] := by
  simp [emptyFlaw?]

theorem nameFlaw?_eq_none_iff : t.nameFlaw? = none ↔ t.columnNames.Nodup := by
  simp [nameFlaw?, firstRepeat?_eq_none_iff]

theorem keyFlaw?_eq_none_iff : t.keyFlaw? = none
    ↔ t.tableKeys.length ≤ 1 ∧ ((∃ c ∈ t.columns, c.primaryKey = true) → t.tableKeys = []) := by
  rw [keyFlaw?, ite_eq_right_iff, severalKeys_iff, ← List.length_eq_zero_iff]
  simp only [reduceCtorEq, imp_false, not_or]
  constructor
  · rintro ⟨hfew, hkind⟩
    refine ⟨by omega, fun hcolumn => ?_⟩
    have hkey : t.tableKeys.length ≠ 1 := fun hkey => hkind ⟨hkey, hcolumn⟩
    omega
  · rintro ⟨hone, hkind⟩
    refine ⟨by omega, ?_⟩
    rintro ⟨hkey, hcolumn⟩
    have := hkind hcolumn
    omega

theorem severalFlaw?_eq_none_iff :
    t.severalFlaw? = none ↔ t.autoincrementColumns.length ≤ 1 := by
  simp [severalFlaw?]

/-- A rule about the only auto-increment column is kept where it holds of every such column. -/
theorem solely?_eq_none_iff {isBroken : Column → Bool} {error : Column → DefinitionError}
    (hone : t.autoincrementColumns.length ≤ 1) :
    t.solely? isBroken error = none
      ↔ ∀ c ∈ t.columns, c.autoincrement = true → isBroken c = false := by
  have hmem : ∀ c, c ∈ t.autoincrementColumns ↔ c ∈ t.columns ∧ c.autoincrement = true :=
    fun c => List.mem_filter
  have hall : (∀ c ∈ t.columns, c.autoincrement = true → isBroken c = false)
      ↔ ∀ c ∈ t.autoincrementColumns, isBroken c = false := by
    simp only [hmem, and_imp]
  rw [hall, solely?]
  rcases hc : t.autoincrementColumns with _ | ⟨c, _ | ⟨c', rest⟩⟩
  · simp
  · simp
  · rw [hc] at hone
    simp at hone

theorem typeFlaw?_eq_none_iff (hone : t.autoincrementColumns.length ≤ 1) :
    t.typeFlaw? = none
      ↔ ∀ c ∈ t.columns, c.autoincrement = true → c.type.isInteger = true := by
  rw [typeFlaw?, solely?_eq_none_iff hone]
  simp only [Bool.not_eq_false']

theorem defaultFlaw?_eq_none_iff (hone : t.autoincrementColumns.length ≤ 1) :
    t.defaultFlaw? = none ↔ ∀ c ∈ t.columns, c.autoincrement = true → c.default = none := by
  rw [defaultFlaw?, solely?_eq_none_iff hone]
  simp only [Option.isSome_eq_false_iff, Option.isNone_iff_eq_none]

theorem keyedFlaw?_eq_none_iff (hone : t.autoincrementColumns.length ≤ 1) :
    t.keyedFlaw? d = none
      ↔ ∀ c ∈ t.columns, c.autoincrement = true → d = .mysql ∨ d = .sqlite →
          t.InPrimaryKey c := by
  rw [keyedFlaw?, solely?_eq_none_iff hone]
  simp only [← Bool.not_eq_true, lacksKey_iff, not_and, Classical.not_not]

theorem soleKeyFlaw?_eq_none_iff (hone : t.autoincrementColumns.length ≤ 1) :
    t.soleKeyFlaw? d = none
      ↔ ∀ c ∈ t.columns, c.autoincrement = true → d = .sqlite → t.IsSoleKey c := by
  rw [soleKeyFlaw?, solely?_eq_none_iff hone]
  refine forall_congr' fun c => forall_congr' fun hc => imp_congr_right fun _ => ?_
  rw [← Bool.not_eq_true, lacksSoleKey_iff hc, not_and, Classical.not_not]

/-- What it means for the listing of a constraint to have no fault. -/
theorem constraintFlaw?_eq_none_iff {k : Constraint} : t.constraintFlaw? k = none
    ↔ ((∀ expression, k.rule ≠ .check expression) →
          k.columns ≠ [] ∧ ∀ name ∈ k.columns, name ∈ t.columnNames)
      ∧ ∀ key, k.rule = .foreignKey key → key.references ≠ [] := by
  rw [constraintFlaw?_eq]
  obtain ⟨name, columns | columns | key | expression⟩ := k
  · simp [Rule.listing?, listingFlaw?_eq_none_iff, Listing.IsIncomplete, Constraint.columns,
      Rule.columns]
  · simp [Rule.listing?, listingFlaw?_eq_none_iff, Listing.IsIncomplete, Constraint.columns,
      Rule.columns]
  · simp [Rule.listing?, listingFlaw?_eq_none_iff, Listing.IsIncomplete, Constraint.columns,
      Rule.columns]
    exact and_right_comm
  · simp [Rule.listing?]

theorem indexFlaw?_eq_none_iff {i : Index} : t.indexFlaw? i = none
    ↔ i.columns ≠ [] ∧ ∀ name ∈ i.columns, name ∈ t.columnNames := by
  rw [indexFlaw?_eq, listingFlaw?_eq_none_iff]
  simp [Index.listing, Listing.IsIncomplete]

/-- **The accepted tables are the sound ones.** The rules about the only auto-increment column are
compared only after it is known that there is at most one. -/
theorem flaw?_eq_none_iff : t.flaw? d = none ↔ t.IsSound d := by
  rw [flaw?, autoincrementFlaw?_or, columnListFlaw?]
  simp only [Option.or_eq_none_iff, emptyFlaw?_eq_none_iff, nameFlaw?_eq_none_iff,
    keyFlaw?_eq_none_iff, severalFlaw?_eq_none_iff, List.findSome?_eq_none_iff,
    constraintFlaw?_eq_none_iff, indexFlaw?_eq_none_iff]
  constructor
  · rintro ⟨hcolumns, hnames, ⟨hkey, hkind⟩, hone, htype, hdefault, hkeyed, hsole,
      hconstraints, hindexes⟩
    exact
      { hasColumn := hcolumns
        distinctNames := hnames
        oneDeclaredKey := hkey
        oneKindOfKey := hkind
        oneAutoincrement := hone
        autoincrementType := (typeFlaw?_eq_none_iff hone).mp htype
        autoincrementDefault := (defaultFlaw?_eq_none_iff hone).mp hdefault
        autoincrementKeyed := (keyedFlaw?_eq_none_iff hone).mp hkeyed
        autoincrementSoleKey := (soleKeyFlaw?_eq_none_iff hone).mp hsole
        constraintColumns := fun k hk => (hconstraints k hk).1
        foreignKeyReferences := fun k hk => (hconstraints k hk).2
        indexColumns := hindexes }
  · intro h
    have hone := h.oneAutoincrement
    exact ⟨h.hasColumn, h.distinctNames, ⟨h.oneDeclaredKey, h.oneKindOfKey⟩, hone,
      (typeFlaw?_eq_none_iff hone).mpr h.autoincrementType,
      (defaultFlaw?_eq_none_iff hone).mpr h.autoincrementDefault,
      (keyedFlaw?_eq_none_iff hone).mpr h.autoincrementKeyed,
      (soleKeyFlaw?_eq_none_iff hone).mpr h.autoincrementSoleKey,
      fun k hk => ⟨h.constraintColumns k hk, h.foreignKeyReferences k hk⟩, h.indexColumns⟩

/-- No list of a sound table is at fault. -/
theorem IsSound.columnListFlaw?_eq_none (h : t.IsSound d) : t.columnListFlaw? = none := by
  have hflaw := flaw?_eq_none_iff.mpr h
  unfold flaw? at hflaw
  simp only [Option.or_eq_none_iff] at hflaw
  exact hflaw.2.2.2.2

/-- A script is written exactly for the sound tables. -/
theorem exists_script_iff : (∃ sql, t.script d = .ok sql) ↔ t.IsSound d := by
  simp only [script_eq_ok_iff, exists_and_left, exists_eq, and_true, flaw?_eq_none_iff]

/-- **The verdict on a table.** A script is written exactly for the sound tables of a dialect. For
any other one the error is a broken rule, and no broken rule has a lower rank. -/
theorem script_verdict (d : Dialect) (t : Table) :
    ((∃ sql, t.script d = .ok sql) ↔ t.IsSound d)
      ∧ ∀ e, t.script d = .error e
          ↔ t.Breaks d e ∧ ∀ e', t.Breaks d e' → e.rank ≤ e'.rank := by
  refine ⟨?_, fun e => by rw [script_eq_error_iff, flaw?_eq_some_iff]⟩
  rw [← flaw?_eq_none_iff]
  constructor
  · rintro ⟨sql, hsql⟩
    exact (script_eq_ok_iff.mp hsql).1
  · exact fun hflaw => ⟨_, script_eq_ok_iff.mpr ⟨hflaw, rfl⟩⟩

/-- A key on an unknown column comes before an index without columns, though both are wrong. -/
example : ({ name := "t", columns := [{ name := "a", type := .text }],
             constraints := [{ rule := .check "" }, { rule := .unique ["a", "b"] }],
             indexes := [{ name := "i", columns := [], unique := false }] } : Table).flaw? .mysql
    = some (.unknownColumn "t" "b") := by decide

end SchemaSql.Table
