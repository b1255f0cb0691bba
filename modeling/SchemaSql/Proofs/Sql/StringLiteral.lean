/-
Reading a string literal back.

A reader of SQL that has seen the opening quote of a literal looks for the quote that closes
it. A quote with another one behind it does not close the literal. The two stand for one quote,
and it takes a look at one character more to tell. This is all that the standard says, and
Postgres and SQLite keep to it. In MySQL a backslash has a meaning too. Together with the
character behind it, it stands for a text, and that character closes nothing even if it is a
quote. What the text is differs with the character, and so the meaning of a backslash is a
parameter here (`readQuoted`), which is absent where a backslash is a character like any
other.

A quoted text is read as itself up to the closing quote, whatever comes behind it
(`readQuoted_doubleQuotes`). The literal as a whole is then read back exactly where no further
quote follows (`readLiteral?_sqlLiteral_iff`).
-/
import SchemaSql.Text.Literal

set_option autoImplicit false

namespace SchemaSql.Text

/-! ## The reader -/

/-- Puts a text in front of what a literal stands for. -/
def prepend (s : List Char) (read : List Char × List Char) : List Char × List Char :=
  (s ++ read.1, read.2)

theorem map_prepend_eq_some_iff {s p after : List Char} {read : Option (List Char × List Char)} :
    read.map (prepend s) = some (p, after) ↔ ∃ p', read = some (p', after) ∧ s ++ p' = p := by
  rcases read with _ | ⟨p', after'⟩
  · simp
  · simp only [Option.map_some, prepend, Option.some.injEq, Prod.mk.injEq]
    constructor
    · rintro ⟨hp, hafter⟩
      exact ⟨p', ⟨rfl, hafter⟩, hp⟩
    · rintro ⟨_, ⟨rfl, hafter⟩, hp⟩
      exact ⟨hp, hafter⟩

/-- **Reading a literal** from behind its opening quote: the text that it stands for, and what is
left behind its closing quote. `escape?` says what a backslash and a character stand for, where
a backslash means anything. -/
def readQuoted (escape? : Option (Char → List Char)) :
    List Char → Option (List Char × List Char)
  | [] => none
  | '\'' :: '\'' :: rest => (readQuoted escape? rest).map (prepend ['\''])
  | '\'' :: rest => some ([], rest)
  | '\\' :: c :: rest =>
    match escape? with
    | some escape => (readQuoted escape? rest).map (prepend (escape c))
    | none => (readQuoted escape? (c :: rest)).map (prepend ['\\'])
  | c :: rest => (readQuoted escape? rest).map (prepend [c])

/-- **Reading a literal**: the text that it stands for, and what is left behind it. -/
def readLiteral? (escape? : Option (Char → List Char)) (text : String) :
    Option (String × String) :=
  match text.toList with
  | '\'' :: rest =>
    (readQuoted escape? rest).map fun read => (String.ofList read.1, String.ofList read.2)
  | _ => none

variable {escape? : Option (Char → List Char)}

theorem readQuoted_pair (rest : List Char) :
    readQuoted escape? ('\'' :: '\'' :: rest) = (readQuoted escape? rest).map (prepend ['\'']) := by
  rw [readQuoted]

theorem readQuoted_close {rest : List Char} (h : rest.head? ≠ some '\'') :
    readQuoted escape? ('\'' :: rest) = some ([], rest) := by
  rw [readQuoted]
  rintro rest' rfl
  exact h rfl

/-- Any other character stands for itself, and so does a backslash without a meaning. -/
theorem readQuoted_char {c : Char} (hquote : c ≠ '\'') (hplain : escape? = none ∨ c ≠ '\\')
    (rest : List Char) :
    readQuoted escape? (c :: rest) = (readQuoted escape? rest).map (prepend [c]) := by
  by_cases hc : c = '\\'
  · subst hc
    obtain rfl : escape? = none := hplain.resolve_right (by simp)
    cases rest with
    | nil => rfl
    | cons x rest => rw [readQuoted]
  · rw [readQuoted]
    · exact fun _ h => absurd h hquote
    · exact hquote
    · exact fun _ _ h => absurd h hc

/-! ## Quoted texts -/

/-- A text with its quotes doubled is read as the text, and the reader goes on behind it. -/
theorem readQuoted_doubleQuotes {s : List Char} (hplain : escape? = none ∨ '\\' ∉ s)
    (rest : List Char) :
    readQuoted escape? (doubleQuotes s ++ rest) = (readQuoted escape? rest).map (prepend s) := by
  have hmap : ∀ (c : Char) (s : List Char) (read : Option (List Char × List Char)),
      (read.map (prepend s)).map (prepend [c]) = read.map (prepend (c :: s)) := by
    intro c s read
    rw [Option.map_map]
    rfl
  induction s with
  | nil =>
    have hid : prepend [] = id := rfl
    rw [hid, Option.map_id]
    rfl
  | cons c s ih =>
    have hrest : escape? = none ∨ '\\' ∉ s :=
      hplain.imp_right fun h hs => h (List.mem_cons_of_mem c hs)
    by_cases hc : c = '\''
    · subst hc
      rw [doubleQuotes_quote, List.cons_append, List.cons_append, readQuoted_pair, ih hrest, hmap]
    · have hchar : escape? = none ∨ c ≠ '\\' :=
        hplain.imp_right fun h hc => h (hc ▸ List.mem_cons_self)
      rw [doubleQuotes_cons s hc, List.cons_append, readQuoted_char hc hchar, ih hrest, hmap]

/-- Whether a text begins with a quote. -/
def StartsWithQuote (s : String) : Prop := s.toList.head? = some '\''

instance (s : String) : Decidable (StartsWithQuote s) :=
  inferInstanceAs (Decidable (s.toList.head? = some '\''))

/-- A written literal is read from behind its opening quote. -/
theorem readLiteral?_sqlLiteral_append (s rest : String) :
    readLiteral? escape? (sqlLiteral s ++ rest)
      = (readQuoted escape? (doubleQuotes s.toList ++ '\'' :: rest.toList)).map fun read =>
          (String.ofList read.1, String.ofList read.2) := by
  have hlist : (sqlLiteral s ++ rest).toList
      = '\'' :: (doubleQuotes s.toList ++ '\'' :: rest.toList) := by
    rw [String.toList_append, sqlLiteral, String.toList_ofList]
    simp
  rw [readLiteral?, hlist]
  rfl

theorem readLiteral?_sqlLiteral (s rest : String) (hplain : escape? = none ∨ '\\' ∉ s.toList) :
    readLiteral? escape? (sqlLiteral s ++ rest)
      = (readQuoted escape? ('\'' :: rest.toList)).map fun read =>
          (String.ofList (s.toList ++ read.1), String.ofList read.2) := by
  rw [readLiteral?_sqlLiteral_append, readQuoted_doubleQuotes hplain, Option.map_map]
  rfl

/-- **A literal is read back** as the text that it was written for, and what follows it is left,
exactly if that does not begin with a quote. -/
theorem readLiteral?_sqlLiteral_iff (s rest : String)
    (hplain : escape? = none ∨ '\\' ∉ s.toList) :
    readLiteral? escape? (sqlLiteral s ++ rest) = some (s, rest) ↔ ¬StartsWithQuote rest := by
  rw [readLiteral?_sqlLiteral s rest hplain, StartsWithQuote]
  by_cases hrest : rest.toList.head? = some '\''
  · -- The closing quote and the next one are read as a quote of the text.
    refine iff_of_false ?_ (not_not_intro hrest)
    obtain ⟨more, hmore⟩ := List.head?_eq_some_iff.mp hrest
    rw [hmore, readQuoted_pair, Option.map_map]
    intro h
    obtain ⟨read, -, hread⟩ := Option.map_eq_some_iff.mp h
    have hlength := congrArg List.length (congrArg (String.toList ∘ Prod.fst) hread)
    simp [prepend] at hlength
  · rw [readQuoted_close hrest]
    refine iff_of_true ?_ hrest
    simp

end SchemaSql.Text
