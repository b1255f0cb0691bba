/-
The query for a table on MySQL.

MySQL is asked for the tables whose names are like a pattern, and the pattern is the name of
the table. On its way the name meets two readers. The string literal is read first, and a
backslash in it means something together with the character behind it. What the literal stands
for is then read as a pattern, in which a percent sign stands for any text, an underscore for
any character and a backslash for the character behind it. The name is written for the first
of these readers, and there only its quotes are.

So the query finds the table of its name alone exactly if none of the three characters is in
the name (`table_query_is_exact_iff`). With a percent sign or an underscore it finds other
tables as well. With a backslash it need not be a query any more. If it is one, the pattern has
lost something, and what shows this is a length. A pattern has a narrowest text, which is like
it and no longer than it (`narrowest`), and behind a literal with a backslash it is shorter
than the name (`length_narrowest_lt`). No table of that name was asked for.
-/
import Mathlib.Data.List.Infix
import SchemaSql.Proofs.Sql.StringLiteral
import SchemaSql.Rendering.Statement

set_option autoImplicit false

namespace SchemaSql

open SchemaSql.Text

/-! ## Patterns -/

/-- **Whether a text is like a pattern.** A percent sign stands for any text and an underscore for
any character. A backslash takes the meaning from the character behind it; at the end of a pattern
it stands for itself. -/
def isLike : List Char → List Char → Bool
  | [], s => s.isEmpty
  | '%' :: p, s => s.tails.any (isLike p)
  | '_' :: p, s => !s.isEmpty && isLike p s.tail
  | '\\' :: c :: p, s => s.head? == some c && isLike p s.tail
  | c :: p, s => s.head? == some c && isLike p s.tail

theorem isLike_any {p s : List Char} (h : isLike p s = true) : isLike ('%' :: p) s = true := by
  rw [isLike, List.any_eq_true]
  exact ⟨s, (List.mem_tails s s).mpr (List.suffix_refl s), h⟩

theorem isLike_one (p : List Char) (c : Char) (s : List Char) :
    isLike ('_' :: p) (c :: s) = isLike p s := by
  rw [isLike]
  rfl

theorem isLike_escape (c : Char) (p s : List Char) :
    isLike ('\\' :: c :: p) s = (s.head? == some c && isLike p s.tail) := by
  rw [isLike]

theorem isLike_char {c : Char} {p : List Char} (hany : c ≠ '%') (hone : c ≠ '_')
    (hescape : c = '\\' → p = []) (s : List Char) :
    isLike (c :: p) s = (s.head? == some c && isLike p s.tail) := by
  rw [isLike]
  · exact hany
  · exact hone
  · rintro x p' rfl rfl
    cases hescape rfl

/-- A pattern without special characters is a text, and nothing else is like it. -/
theorem isLike_iff_eq {p s : List Char} (hany : '%' ∉ p) (hone : '_' ∉ p) (hescape : '\\' ∉ p) :
    isLike p s = true ↔ s = p := by
  induction p generalizing s with
  | nil => rw [isLike, List.isEmpty_iff]
  | cons c p ih =>
    rw [List.mem_cons, not_or] at hany hone hescape
    rw [isLike_char (Ne.symm hany.1) (Ne.symm hone.1) (fun h => absurd h.symm hescape.1),
      Bool.and_eq_true, beq_iff_eq, ih hany.2 hone.2 hescape.2]
    cases s with
    | nil => simp
    | cons x s => simp

/-! ## The narrowest text of a pattern -/

/-- **The narrowest text** that is like a pattern. A percent sign stands for nothing in it. -/
def narrowest : List Char → List Char
  | [] => []
  | '%' :: p => narrowest p
  | '_' :: p => 'a' :: narrowest p
  | '\\' :: c :: p => c :: narrowest p
  | c :: p => c :: narrowest p

theorem narrowest_char {c : Char} {p : List Char} (hany : c ≠ '%') (hone : c ≠ '_')
    (hescape : c = '\\' → p = []) : narrowest (c :: p) = c :: narrowest p := by
  rw [narrowest]
  · exact hany
  · exact hone
  · rintro x p' rfl rfl
    cases hescape rfl

theorem isLike_narrowest (p : List Char) : isLike p (narrowest p) = true := by
  fun_induction narrowest p with
  | case1 => rfl
  | case2 p ih => exact isLike_any ih
  | case3 p ih => rwa [isLike_one]
  | case4 c p ih => simpa [isLike_escape] using ih
  | case5 c p hany hone hescape ih =>
    have hlast : c = '\\' → p = [] := by
      intro hc
      cases p with
      | nil => rfl
      | cons x p => exact (hescape x p hc rfl).elim
    simpa [isLike_char hany hone hlast] using ih

/-- Without a backslash in the pattern, nothing special is left in its narrowest text. -/
theorem not_mem_narrowest {p : List Char} (h : '\\' ∉ p) :
    '%' ∉ narrowest p ∧ '_' ∉ narrowest p := by
  fun_induction narrowest p with
  | case1 => simp
  | case2 p ih => exact ih fun hp => h (List.mem_cons_of_mem _ hp)
  | case3 p ih => simpa using ih fun hp => h (List.mem_cons_of_mem _ hp)
  | case4 c p => exact absurd List.mem_cons_self h
  | case5 c p hany hone _ ih =>
    obtain ⟨ihany, ihone⟩ := ih fun hp => h (List.mem_cons_of_mem _ hp)
    simp [ihany, ihone, Ne.symm hany, Ne.symm hone]

theorem length_narrowest_cons_of_plain {c : Char} {p : List Char} (hescape : c = '\\' → p = []) :
    (narrowest p).length ≤ (narrowest (c :: p)).length
      ∧ (narrowest (c :: p)).length ≤ (narrowest p).length + 1 := by
  by_cases hany : c = '%'
  · subst hany
    simp [narrowest]
  by_cases hone : c = '_'
  · subst hone
    simp [narrowest]
  simp [narrowest_char hany hone hescape]

/-- One more character in front of a pattern is at most one character more in its narrowest text,
and never one less. A backslash in front takes the meaning of the first character away, which is
why the two bounds need each other. -/
theorem length_narrowest_cons (c : Char) (p : List Char) :
    (narrowest p).length ≤ (narrowest (c :: p)).length
      ∧ (narrowest (c :: p)).length ≤ (narrowest p).length + 1 := by
  induction p generalizing c with
  | nil => exact length_narrowest_cons_of_plain fun _ => rfl
  | cons x p ih =>
    by_cases hescape : c = '\\'
    · have hbounds := ih x
      rw [hescape, narrowest, List.length_cons]
      omega
    · exact length_narrowest_cons_of_plain fun h => absurd h hescape

/-! ## Literals with backslashes -/

/-- **What a backslash may mean.** Together with the character behind it it stands for one
character, or the two are left as they are. -/
def IsEscape (meaning : Char → List Char) : Prop :=
  ∀ c, (∃ x, meaning c = [x]) ∨ meaning c = ['\\', c]

/-- **What a backslash means in MySQL.** Before a percent sign and an underscore it is left for the
reader of patterns. -/
def mysqlEscape : Char → List Char
  | '0' => ['\x00']
  | 'b' => ['\x08']
  | 'n' => ['\n']
  | 'r' => ['\r']
  | 't' => ['\t']
  | 'Z' => ['\x1a']
  | '%' => ['\\', '%']
  | '_' => ['\\', '_']
  | c => [c]

theorem isEscape_mysqlEscape : IsEscape mysqlEscape := by
  intro c
  rw [mysqlEscape.eq_def]
  split
  all_goals simp

variable {meaning : Char → List Char}

/-- An escape is at most one character more in the narrowest text. -/
theorem length_narrowest_escape (hmeaning : IsEscape meaning) (c : Char) (p : List Char) :
    (narrowest (meaning c ++ p)).length ≤ (narrowest p).length + 1 := by
  rcases hmeaning c with ⟨x, hx⟩ | hkept
  · rw [hx]
    exact (length_narrowest_cons x p).2
  · rw [hkept]
    exact Nat.le_refl _

/-- **A pattern is paid for** by the text that it was read from. The count is in halves of a
character. Each character of the narrowest text costs a whole one and each quote of the text a half,
since two of them are read as one. The quote that closes the literal costs another half, and so does
a backslash if there is any. -/
def IsPaidBy (p used : List Char) : Prop :=
  2 * (narrowest p).length + used.count '\'' + 1 + (if '\\' ∈ used then 1 else 0)
    ≤ 2 * used.length

theorem isPaidBy_close : IsPaidBy [] ['\''] := by
  rw [IsPaidBy]
  decide

theorem IsPaidBy.pair {p used : List Char} (h : IsPaidBy p used) :
    IsPaidBy ('\'' :: p) ('\'' :: '\'' :: used) := by
  rw [IsPaidBy] at h ⊢
  have hquote := (length_narrowest_cons '\'' p).2
  have hother : '\\' ≠ '\'' := by decide
  simp only [List.count_cons_self, List.length_cons, List.mem_cons, hother, false_or]
  omega

theorem IsPaidBy.escape {p used : List Char} (hmeaning : IsEscape meaning) (h : IsPaidBy p used)
    (c : Char) : IsPaidBy (meaning c ++ p) ('\\' :: c :: used) := by
  rw [IsPaidBy] at h ⊢
  have hescape := length_narrowest_escape hmeaning c p
  have hcount : ('\\' :: c :: used).count '\'' ≤ used.count '\'' + 1 := by
    rw [List.count_cons_of_ne (by decide), List.count_cons]
    split <;> omega
  rw [if_pos List.mem_cons_self, List.length_cons, List.length_cons]
  omega

theorem IsPaidBy.char {p used : List Char} (h : IsPaidBy p used) {c : Char} (hquote : c ≠ '\'')
    (hescape : c ≠ '\\') : IsPaidBy (c :: p) (c :: used) := by
  rw [IsPaidBy] at h ⊢
  have hchar := (length_narrowest_cons c p).2
  simp only [List.count_cons_of_ne hquote, List.length_cons, List.mem_cons, Ne.symm hescape,
    false_or]
  omega

/-- What a reader makes of a literal is paid by what it takes. -/
theorem isPaidBy_of_readQuoted (hmeaning : IsEscape meaning) {text p after : List Char}
    (h : readQuoted (some meaning) text = some (p, after)) :
    ∃ used, text = used ++ after ∧ IsPaidBy p used := by
  fun_induction readQuoted (some meaning) text generalizing p with
  | case1 => cases h
  | case2 rest ih =>
    obtain ⟨p', hrest, rfl⟩ := map_prepend_eq_some_iff.mp h
    obtain ⟨used, rfl, hpaid⟩ := ih hrest
    exact ⟨'\'' :: '\'' :: used, rfl, hpaid.pair⟩
  | case3 rest =>
    cases h
    exact ⟨['\''], rfl, isPaidBy_close⟩
  | case4 c rest escape hescape ih =>
    cases hescape
    obtain ⟨p', hrest, rfl⟩ := map_prepend_eq_some_iff.mp h
    obtain ⟨used, rfl, hpaid⟩ := ih hrest
    exact ⟨'\\' :: c :: used, rfl, hpaid.escape hmeaning c⟩
  | case5 c rest hnone => cases hnone
  | case6 c rest _ hquote hescape ih =>
    obtain ⟨p', hrest, rfl⟩ := map_prepend_eq_some_iff.mp h
    obtain ⟨used, rfl, hpaid⟩ := ih hrest
    -- A backslash would be the last character, and the literal would not end.
    have hplain : c ≠ '\\' := by
      intro hc
      cases hused : used ++ after with
      | nil =>
        rw [hused] at hrest
        cases hrest
      | cons x rest => exact hescape x rest hc hused
    exact ⟨c :: used, rfl, hpaid.char hquote hplain⟩

/-! ## Quoted names -/

theorem length_doubleQuotes (s : List Char) :
    (doubleQuotes s).length = s.length + s.count '\'' := by
  induction s with
  | nil => rfl
  | cons c s ih =>
    by_cases hc : c = '\''
    · subst hc
      rw [doubleQuotes_quote, List.count_cons_self]
      simp only [List.length_cons, ih]
      omega
    · rw [doubleQuotes_cons s hc, List.count_cons_of_ne hc]
      simp only [List.length_cons, ih]
      omega

theorem count_doubleQuotes (s : List Char) :
    (doubleQuotes s).count '\'' = 2 * s.count '\'' := by
  induction s with
  | nil => rfl
  | cons c s ih =>
    by_cases hc : c = '\''
    · subst hc
      rw [doubleQuotes_quote]
      simp only [List.count_cons_self, ih]
      omega
    · rw [doubleQuotes_cons s hc, List.count_cons_of_ne hc, List.count_cons_of_ne hc, ih]

theorem mem_doubleQuotes {c : Char} {s : List Char} (h : c ∈ s) : c ∈ doubleQuotes s := by
  refine List.mem_flatMap.mpr ⟨c, h, ?_⟩
  by_cases hc : c = '\''
  · rw [if_pos hc, hc]
    exact List.mem_cons_self
  · rw [if_neg hc]
    exact List.mem_singleton_self c

/-- **A backslash is lost.** If a name with a backslash can be read at all, the narrowest text of
the pattern is shorter than the name. -/
theorem length_narrowest_lt (hmeaning : IsEscape meaning) {name pattern rest : String}
    (hread : readLiteral? (some meaning) (sqlLiteral name ++ rest) = some (pattern, rest))
    (hname : '\\' ∈ name.toList) :
    (narrowest pattern.toList).length < name.toList.length := by
  rw [readLiteral?_sqlLiteral_append, List.append_cons] at hread
  obtain ⟨read, hquoted, heq⟩ := Option.map_eq_some_iff.mp hread
  obtain ⟨used, hused, hpaid⟩ := isPaidBy_of_readQuoted hmeaning hquoted
  cases heq
  rw [String.toList_ofList] at hused ⊢
  obtain rfl := List.append_cancel_right hused
  rw [IsPaidBy, if_pos (List.mem_append_left _ (mem_doubleQuotes hname)), List.count_append,
    List.length_append, length_doubleQuotes, count_doubleQuotes, List.length_singleton,
    List.count_singleton_self] at hpaid
  omega

/-! ## The query -/

/-- The pattern of a query, if the text is one SHOW TABLES LIKE statement and nothing else. -/
def shownPattern? (meaning : Char → List Char) (query : String) : Option String := do
  let rest ← "show tables like ".toList.isPrefixOf? query.toList
  let (pattern, after) ← readLiteral? (some meaning) (String.ofList rest)
  if after = ";" then some pattern else none

/-- **The rows of a query**: of the tables there are, those whose names are like its pattern. A text
that is not such a query has none. -/
def shownTables (meaning : Char → List Char) (query : String) (tables : List String) :
    List String :=
  match shownPattern? meaning query with
  | some pattern => tables.filter fun t => isLike pattern.toList t.toList
  | none => []

theorem shownPattern?_tableQuery_eq_some_iff {name pattern : String} :
    shownPattern? meaning (Dialect.mysql.tableQuery name) = some pattern
      ↔ readLiteral? (some meaning) (sqlLiteral name ++ ";") = some (pattern, ";") := by
  have htext : (Dialect.mysql.tableQuery name).toList
      = "show tables like ".toList ++ (sqlLiteral name ++ ";").toList := by
    rw [← String.toList_append, ← String.append_assoc]
    rfl
  have hrest : "show tables like ".toList.isPrefixOf? (Dialect.mysql.tableQuery name).toList
      = some (sqlLiteral name ++ ";").toList :=
    List.isPrefixOf?_eq_some_iff_append_eq.mpr htext.symm
  rw [shownPattern?, hrest, Option.bind_eq_bind, Option.bind_some, String.ofList_toList,
    Option.bind_eq_bind, Option.bind_eq_some_iff]
  constructor
  · rintro ⟨⟨read, after⟩, hread, hpattern⟩
    obtain ⟨rfl, hpattern⟩ := Option.ite_none_right_eq_some.mp hpattern
    rw [hread, Option.some.inj hpattern]
  · exact fun hread => ⟨(pattern, ";"), hread, if_pos rfl⟩

/-- Which tables a query shows. -/
theorem shownTables_ne_nil_iff {query : String} {tables : List String} :
    shownTables meaning query tables ≠ []
      ↔ ∃ pattern, shownPattern? meaning query = some pattern
          ∧ ∃ t ∈ tables, isLike pattern.toList t.toList = true := by
  rw [shownTables]
  cases hpattern : shownPattern? meaning query with
  | none => simp
  | some pattern =>
    rw [ne_eq, List.filter_eq_nil_iff]
    simp

/-- **The query for a table is exact** for a name without a percent sign, an underscore and a
backslash, and for no other name. Here it is exact if it has rows where the table is among those
that there are, and has none where it is not. -/
theorem table_query_is_exact_iff (hmeaning : IsEscape meaning) (name : String) :
    (∀ tables : List String,
        shownTables meaning (Dialect.mysql.tableQuery name) tables ≠ [] ↔ name ∈ tables)
      ↔ '%' ∉ name.toList ∧ '_' ∉ name.toList ∧ '\\' ∉ name.toList := by
  simp only [shownTables_ne_nil_iff, shownPattern?_tableQuery_eq_some_iff]
  have hread : '\\' ∉ name.toList →
      readLiteral? (some meaning) (sqlLiteral name ++ ";") = some (name, ";") := fun h =>
    (readLiteral?_sqlLiteral_iff name ";" (.inr h)).mpr (by decide)
  constructor
  · intro hexact
    obtain ⟨pattern, hpattern, -⟩ := (hexact [name]).mpr (List.mem_singleton_self name)
    -- The narrowest text of the pattern is a table that is shown.
    have hnarrowest : narrowest pattern.toList = name.toList := by
      have hmem := (hexact [String.ofList (narrowest pattern.toList)]).mp
        ⟨pattern, hpattern, _, List.mem_singleton_self _, by
          rw [String.toList_ofList]
          exact isLike_narrowest pattern.toList⟩
      rw [List.mem_singleton.mp hmem, String.toList_ofList]
    have hescape : '\\' ∉ name.toList := by
      intro h
      have hlt := length_narrowest_lt hmeaning hpattern h
      rw [hnarrowest] at hlt
      exact Nat.lt_irrefl _ hlt
    obtain rfl : name = pattern := by
      rw [hread hescape, Option.some.injEq, Prod.mk.injEq] at hpattern
      exact hpattern.1
    have hspecial := not_mem_narrowest hescape
    rw [hnarrowest] at hspecial
    exact ⟨hspecial.1, hspecial.2, hescape⟩
  · rintro ⟨hany, hone, hescape⟩ tables
    have hlike : ∀ t : String, isLike name.toList t.toList = true ↔ t = name := by
      intro t
      rw [isLike_iff_eq hany hone hescape, String.toList_inj]
    constructor
    · rintro ⟨pattern, hpattern, t, ht, htlike⟩
      rw [hread hescape, Option.some.injEq, Prod.mk.injEq] at hpattern
      obtain ⟨rfl, -⟩ := hpattern
      rwa [← (hlike t).mp htlike]
    · exact fun hmem => ⟨name, hread hescape, name, hmem, (hlike name).mpr rfl⟩

theorem query_for_users_is_exact :
    IsEscape mysqlEscape ∧ ∀ tables : List String,
      shownTables mysqlEscape (Dialect.mysql.tableQuery "users") tables ≠ [] ↔ "users" ∈ tables :=
  ⟨isEscape_mysqlEscape, (table_query_is_exact_iff isEscape_mysqlEscape "users").mpr (by decide)⟩

/-- The query for one table finds another one. -/
theorem query_for_user_a_finds_user1a :
    shownTables mysqlEscape (Dialect.mysql.tableQuery "user_a") ["user1a"] = ["user1a"]
      ∧ "user_a" ∉ ["user1a"] := by
  decide

/-- A backslash is lost on the way, and with it the table. -/
example : shownTables mysqlEscape (Dialect.mysql.tableQuery "a\\c") ["a\\c", "ac"] = ["ac"] := by
  decide

end SchemaSql
