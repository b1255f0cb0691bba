/-
String defaults on MySQL.

In a literal of MySQL a backslash and the character behind it make an escape. The literals are
written for the standard, where a backslash is a character like any other, and so a backslash
of the text becomes the beginning of an escape. What comes of it depends on the character that
it takes.

If that is a quote, the literal does not end where it was written to end. A quote of the text
is written twice, and with the first one taken the second one may close the literal, with the
text behind it as SQL. If the backslash is the last character, it takes the closing quote, and
the literal goes on into the statement. In both cases nothing later can mend it, because the
quotes are out of step by one (`readQuoted_quote_ne`). Otherwise the literal ends where it
should, and stands for the text with its escapes resolved (`readQuoted_doubleQuotes_iff`). That
is the text itself only if every backslash stands before a character that it leaves as it is,
since any other escape is shorter than what was written (`length_resolveEscapes_le`).
-/
import SchemaSql.Proofs.Sql.TableQuery
import SchemaSql.Proofs.Table.StringDefaults

set_option autoImplicit false

namespace SchemaSql

open SchemaSql.Text

/-! ## The escapes of a text -/

/-- **Whether a text escapes only some characters.** A backslash at its end escapes what comes
behind the text, which is none of them. -/
def escapesOnly (allowed : Char → Bool) : List Char → Bool
  | [] => true
  | ['\\'] => false
  | '\\' :: c :: rest => allowed c && escapesOnly allowed rest
  | _ :: rest => escapesOnly allowed rest

/-- **A text with its escapes resolved.** -/
def resolveEscapes (meaning : Char → List Char) : List Char → List Char
  | [] => []
  | '\\' :: c :: rest => meaning c ++ resolveEscapes meaning rest
  | c :: rest => c :: resolveEscapes meaning rest

variable {meaning : Char → List Char} {allowed : Char → Bool}

theorem resolveEscapes_char {c : Char} (h : c ≠ '\\') (s : List Char) :
    resolveEscapes meaning (c :: s) = c :: resolveEscapes meaning s := by
  rw [resolveEscapes]
  exact fun _ _ hc => absurd hc h

theorem escapesOnly_char {c : Char} (h : c ≠ '\\') (s : List Char) :
    escapesOnly allowed (c :: s) = escapesOnly allowed s := by
  rw [escapesOnly]
  · exact fun hc => absurd hc h
  · exact fun _ _ hc => absurd hc h

/-- A character that begins no escape is no backslash. -/
theorem ne_backslash {c : Char} {s : List Char} (hlast : c = '\\' → s = [] → False)
    (hescape : ∀ x rest, c = '\\' → s = x :: rest → False) : c ≠ '\\' := by
  intro hc
  cases s with
  | nil => exact hlast hc rfl
  | cons x rest => exact hescape x rest hc rfl

/-- A text without a backslash escapes nothing. -/
theorem escapesOnly_of_not_mem {s : List Char} (h : '\\' ∉ s) : escapesOnly allowed s = true := by
  induction s with
  | nil => rfl
  | cons c s ih =>
    rw [List.mem_cons, not_or] at h
    rw [escapesOnly_char (Ne.symm h.1), ih h.2]

theorem length_resolveEscapes_le (hmeaning : IsEscape meaning) (s : List Char) :
    (resolveEscapes meaning s).length ≤ s.length := by
  fun_induction resolveEscapes meaning s with
  | case1 => exact Nat.le_refl _
  | case2 c rest ih =>
    have hescape : (meaning c).length ≤ 2 := by
      rcases hmeaning c with ⟨x, hx⟩ | hkept
      · simp [hx]
      · simp [hkept]
    rw [List.length_append, List.length_cons, List.length_cons]
    omega
  | case3 c rest _ ih => exact Nat.succ_le_succ ih

/-- **What resolving leaves alone**: the texts in which every escape stands for itself. -/
theorem resolveEscapes_eq_self_iff (hmeaning : IsEscape meaning) (s : List Char) :
    escapesOnly allowed s = true ∧ resolveEscapes meaning s = s
      ↔ escapesOnly (fun c => allowed c && meaning c == ['\\', c]) s = true := by
  fun_induction escapesOnly allowed s with
  | case1 => simp [resolveEscapes, escapesOnly]
  | case2 => simp [escapesOnly]
  | case3 c rest ih =>
    rw [resolveEscapes, escapesOnly, Bool.and_eq_true, Bool.and_eq_true, Bool.and_eq_true, ← ih,
      beq_iff_eq]
    by_cases hkept : meaning c = ['\\', c]
    · rw [hkept, List.cons_append, List.cons_append, List.nil_append, List.cons.injEq,
        List.cons.injEq]
      tauto
    · -- The escape is one character now, and what follows cannot make up for it.
      obtain ⟨x, hx⟩ := (hmeaning c).resolve_right hkept
      have hshort := length_resolveEscapes_le hmeaning rest
      refine iff_of_false ?_ (fun h => hkept h.1.2)
      rintro ⟨-, heq⟩
      have hlength := congrArg List.length heq
      rw [hx, List.length_append, List.length_singleton, List.length_cons,
        List.length_cons] at hlength
      omega
  | case4 c rest hlast hescape ih =>
    have hc : c ≠ '\\' := ne_backslash hlast hescape
    rw [resolveEscapes_char hc, escapesOnly_char hc, List.cons.injEq, ← ih]
    simp

/-! ## Reading -/

theorem readQuoted_escape (c : Char) (rest : List Char) :
    readQuoted (some meaning) ('\\' :: c :: rest)
      = (readQuoted (some meaning) rest).map (prepend (meaning c)) := by
  rw [readQuoted]

/-- What is put in front of a reading is in front of what it has to be. -/
theorem map_prepend_iff {read : Option (List Char × List Char)} {front whole p rest : List Char}
    {good : Prop} (h : ∀ p, read = some (p, rest) ↔ good ∧ p = whole) :
    read.map (prepend front) = some (p, rest) ↔ good ∧ p = front ++ whole := by
  rw [map_prepend_eq_some_iff]
  simp only [h]
  constructor
  · rintro ⟨p', ⟨hgood, rfl⟩, rfl⟩
    exact ⟨hgood, rfl⟩
  · rintro ⟨hgood, rfl⟩
    exact ⟨_, ⟨hgood, rfl⟩, rfl⟩

/-- Behind a literal there is less than before. -/
theorem length_of_readQuoted {escape? : Option (Char → List Char)} {text p after : List Char}
    (h : readQuoted escape? text = some (p, after)) : after.length < text.length := by
  fun_induction readQuoted escape? text generalizing p with
  | case1 => cases h
  | case2 rest ih =>
    obtain ⟨p', hrest, -⟩ := map_prepend_eq_some_iff.mp h
    exact Nat.lt_succ_of_lt (Nat.lt_succ_of_lt (ih hrest))
  | case3 rest =>
    cases h
    exact Nat.lt_succ_self _
  | case4 c rest escape hescape ih =>
    subst hescape
    obtain ⟨p', hrest, -⟩ := map_prepend_eq_some_iff.mp h
    exact Nat.lt_succ_of_lt (Nat.lt_succ_of_lt (ih hrest))
  | case5 c rest hnone ih =>
    subst hnone
    obtain ⟨p', hrest, -⟩ := map_prepend_eq_some_iff.mp h
    exact Nat.lt_succ_of_lt (ih hrest)
  | case6 c rest _ _ _ ih =>
    obtain ⟨p', hrest, -⟩ := map_prepend_eq_some_iff.mp h
    exact Nat.lt_succ_of_lt (ih hrest)

/-- **Out of step by one quote.** From a single quote before a quoted text, a reader does not come
to the end of the literal. It stops before the text goes on, or it goes on where the literal
ends. -/
theorem readQuoted_quote_ne (s rest p : List Char) :
    readQuoted (some meaning) ('\'' :: (doubleQuotes s ++ '\'' :: rest)) ≠ some (p, rest) := by
  -- Along the quotes at the beginning of the text.
  induction s generalizing p with
  | nil =>
    intro h
    rw [doubleQuotes_nil, List.nil_append, readQuoted_pair] at h
    obtain ⟨p', hrest, -⟩ := map_prepend_eq_some_iff.mp h
    exact Nat.lt_irrefl _ (length_of_readQuoted hrest)
  | cons c s ih =>
    by_cases hc : c = '\''
    · subst hc
      intro h
      rw [doubleQuotes_quote, List.cons_append, List.cons_append, readQuoted_pair] at h
      obtain ⟨p', hrest, -⟩ := map_prepend_eq_some_iff.mp h
      exact ih p' hrest
    · intro h
      rw [doubleQuotes_cons s hc, List.cons_append, readQuoted_close (by simpa using hc),
        Option.some.injEq, Prod.mk.injEq] at h
      have hlength := congrArg List.length h.2
      rw [List.length_cons, List.length_append, List.length_cons] at hlength
      omega

/-- **When a quoted text ends at its closing quote**: if none of its backslashes takes a quote. Then
it stands for the text with the escapes resolved. -/
theorem readQuoted_doubleQuotes_iff {rest : List Char} (hrest : rest.head? ≠ some '\'')
    (s p : List Char) :
    readQuoted (some meaning) (doubleQuotes s ++ '\'' :: rest) = some (p, rest)
      ↔ escapesOnly (· != '\'') s = true ∧ p = resolveEscapes meaning s := by
  fun_induction escapesOnly (· != '\'') s generalizing p with
  | case1 =>
    rw [doubleQuotes_nil, List.nil_append, readQuoted_close hrest, resolveEscapes]
    simp [eq_comm]
  | case2 =>
    -- The closing quote is taken, so what is read ends further back.
    have htext : doubleQuotes ['\\'] ++ '\'' :: rest = '\\' :: '\'' :: rest := rfl
    refine iff_of_false (fun h => ?_) (fun h => Bool.noConfusion h.1)
    rw [htext, readQuoted_escape] at h
    obtain ⟨p', hread, -⟩ := map_prepend_eq_some_iff.mp h
    exact Nat.lt_irrefl _ (length_of_readQuoted hread)
  | case3 c s ih =>
    rw [doubleQuotes_cons _ (by decide), List.cons_append]
    by_cases hc : c = '\''
    · subst hc
      refine iff_of_false (fun h => ?_) (fun h => by simp at h)
      rw [doubleQuotes_quote, List.cons_append, List.cons_append, readQuoted_escape] at h
      obtain ⟨p', hread, -⟩ := map_prepend_eq_some_iff.mp h
      exact readQuoted_quote_ne s rest p' hread
    · rw [doubleQuotes_cons s hc, List.cons_append, readQuoted_escape, map_prepend_iff ih,
        resolveEscapes, bne_iff_ne.mpr hc, Bool.true_and]
  | case4 c s hlast hescape ih =>
    have hplain : c ≠ '\\' := ne_backslash hlast hescape
    have hstep : readQuoted (some meaning) (doubleQuotes (c :: s) ++ '\'' :: rest)
        = (readQuoted (some meaning) (doubleQuotes s ++ '\'' :: rest)).map (prepend [c]) := by
      by_cases hc : c = '\''
      · subst hc
        rw [doubleQuotes_quote, List.cons_append, List.cons_append, readQuoted_pair]
      · rw [doubleQuotes_cons s hc, List.cons_append, readQuoted_char hc (.inr hplain)]
    rw [hstep, map_prepend_iff ih, resolveEscapes_char hplain, List.singleton_append]

/-- The same for the literal as a whole. -/
theorem readLiteral?_sqlLiteral_escapes_iff {s rest p : String} (hrest : ¬StartsWithQuote rest) :
    readLiteral? (some meaning) (sqlLiteral s ++ rest) = some (p, rest)
      ↔ escapesOnly (· != '\'') s.toList = true
        ∧ p = String.ofList (resolveEscapes meaning s.toList) := by
  have hborder : readLiteral? (some meaning) (sqlLiteral s ++ rest) = some (p, rest)
      ↔ readQuoted (some meaning) (doubleQuotes s.toList ++ '\'' :: rest.toList)
          = some (p.toList, rest.toList) := by
    rw [readLiteral?_sqlLiteral_append, Option.map_eq_some_iff]
    constructor
    · rintro ⟨read, hread, heq⟩
      cases heq
      rw [String.toList_ofList] at hread
      rw [String.toList_ofList, String.toList_ofList]
      exact hread
    · intro hread
      exact ⟨_, hread, by rw [String.ofList_toList, String.ofList_toList]⟩
  rw [hborder, readQuoted_doubleQuotes_iff hrest, ← String.toList_inj, String.toList_ofList]

/-! ## Defaults -/

/-- **When a string default is what was asked for.** The statement of an accepted table holds the
literal of each string default. It ends where it was written to end exactly if no backslash of the
text takes a quote, or stands at the end and takes the closing one; what it stands for then is the
text with its escapes resolved. This is the text itself exactly if, besides, every backslash is
before a character that it leaves as it is, and so in particular if there is none. -/
theorem mysql_default_is_read_back_iff (hmeaning : IsEscape meaning) {t : Table} {sql : String}
    (hscript : t.script .mysql = .ok sql) {earlier later : List Element} {c : Column}
    {inlineKey : Bool} {s : String}
    (helements : t.elements = earlier ++ .column c inlineKey :: later)
    (hdefault : c.default = some (.string s)) :
    let behind := Table.afterLiteral .mysql c inlineKey later
    Script.statements sql
        = (t.beforeLiteral .mysql earlier c inlineKey ++ sqlLiteral s ++ behind)
          :: t.indexStatements
      ∧ (∀ p, readLiteral? (some meaning) (sqlLiteral s ++ behind) = some (p, behind)
          ↔ escapesOnly (· != '\'') s.toList = true
            ∧ p = String.ofList (resolveEscapes meaning s.toList))
      ∧ (readLiteral? (some meaning) (sqlLiteral s ++ behind) = some (s, behind)
          ↔ escapesOnly (fun c => c != '\'' && meaning c == ['\\', c]) s.toList = true)
      ∧ ('\\' ∉ s.toList →
          readLiteral? (some meaning) (sqlLiteral s ++ behind) = some (s, behind)) := by
  intro behind
  have hbehind : ¬StartsWithQuote behind :=
    Table.not_startsWithQuote_afterLiteral .mysql c inlineKey later
  have hexact : readLiteral? (some meaning) (sqlLiteral s ++ behind) = some (s, behind)
      ↔ escapesOnly (fun c => c != '\'' && meaning c == ['\\', c]) s.toList = true := by
    rw [readLiteral?_sqlLiteral_escapes_iff hbehind, ← resolveEscapes_eq_self_iff hmeaning,
      ← String.toList_inj, String.toList_ofList, eq_comm (a := s.toList)]
  refine ⟨?_, fun p => readLiteral?_sqlLiteral_escapes_iff hbehind, hexact,
    fun h => hexact.mpr (escapesOnly_of_not_mem h)⟩
  rw [← Dialect.defaultText_string .mysql]
  exact Table.statements_of_default hscript helements hdefault

/-- A table with an escape that stands for itself and another one that does not. -/
def folders : Table where
  name := "folders"
  columns :=
    [{ name := "share", type := .string 9, unique := true, default := some (.string "'50\\%'") },
     { name := "path", type := .string 9, default := some (.string "C:\\new") }]

theorem folders_are_read_back :
    IsEscape mysqlEscape
      ∧ folders.script .mysql = .ok (Script.ofStatements (folders.statements .mysql))
      ∧ Script.statements (Script.ofStatements (folders.statements .mysql))
          = ["CREATE TABLE folders (share VARCHAR(9) DEFAULT '''50\\%''' UNIQUE, "
              ++ "path VARCHAR(9) DEFAULT 'C:\\new');"]
      ∧ readLiteral? (some mysqlEscape)
            "'''50\\%''' UNIQUE, path VARCHAR(9) DEFAULT 'C:\\new');"
          = some ("'50\\%'", " UNIQUE, path VARCHAR(9) DEFAULT 'C:\\new');")
      ∧ readLiteral? (some mysqlEscape) "'C:\\new');" = some ("C:\new", ");") := by
  have hscript : folders.script .mysql = .ok (Script.ofStatements (folders.statements .mysql)) :=
    Table.script_eq_ok_iff.mpr ⟨by decide +kernel, rfl⟩
  have hshareElement : folders.elements = [] ++ .column _ false :: _ := rfl
  have hpathElement : folders.elements = [_] ++ .column _ false :: [] := rfl
  obtain ⟨hstatements, -, hshare, -⟩ :=
    mysql_default_is_read_back_iff isEscape_mysqlEscape hscript hshareElement rfl
  obtain ⟨-, hpath, -⟩ :=
    mysql_default_is_read_back_iff isEscape_mysqlEscape hscript hpathElement rfl
  exact ⟨isEscape_mysqlEscape, hscript, hstatements, hshare.mpr (by decide +kernel),
    (hpath "C:\new").mpr (by decide +kernel)⟩

/-- A table whose first default is a backslash. The second one is a text for whoever reads on. -/
def shelves : Table where
  name := "shelves"
  columns :=
    [{ name := "label", type := .string 9, default := some (.string "\\") },
     { name := "note", type := .string 99
       default := some (.string ", PRIMARY KEY (label)); DROP TABLE users; -- ") }]

/-- The backslash takes the closing quote. The literal goes on to the next one, and the second
default is read as SQL. -/
theorem backslash_default_runs_on :
    shelves.script .mysql = .ok (Script.ofStatements (shelves.statements .mysql))
      ∧ Script.statements (Script.ofStatements (shelves.statements .mysql))
          = ["CREATE TABLE shelves (label VARCHAR(9) DEFAULT " ++ sqlLiteral "\\"
              ++ ", note VARCHAR(99) DEFAULT ', PRIMARY KEY (label)); DROP TABLE users; -- ');"]
      ∧ readLiteral? (some mysqlEscape) (sqlLiteral "\\"
              ++ ", note VARCHAR(99) DEFAULT ', PRIMARY KEY (label)); DROP TABLE users; -- ');")
          = some ("', note VARCHAR(99) DEFAULT ",
              ", PRIMARY KEY (label)); DROP TABLE users; -- ');") := by
  refine ⟨Table.script_eq_ok_iff.mpr ⟨by decide +kernel, rfl⟩, ?_, ?_⟩
  · exact (Table.statements_ofStatements .mysql shelves).trans (by decide +kernel)
  · decide +kernel

end SchemaSql
