/-
Quotes and parentheses in SQL text.

To find the elements of a CREATE TABLE statement a reader needs to know two things at
each character: how many parentheses are open, and whether a string literal is. Single
quotes open and close literals in turn, and a doubled quote inside a literal closes and
opens it again with nothing between. Inside a literal neither parentheses nor commas
mean anything. The two things make up a `Nesting`, and `Nesting.advance` is what one
character does to it.

Two kinds of text matter. A balanced text ends as it began and closes no parenthesis that
it has not opened. A text in one piece is balanced and has, besides, no comma outside
literals and parentheses, so that a list in which it stands is not cut inside it. Both
kinds can be appended, a balanced text in parentheses is in one piece
(`IsBalanced.parenthesized`), and so is every string literal (`isOnePiece_sqlLiteral`),
whatever it quotes. Everything that is written for a table is put together in these ways.
-/
import SchemaSql.Rendering.ConstraintText
import SchemaSql.Text.Literal

set_option autoImplicit false

namespace SchemaSql

/-- Where in a text a reader stands. -/
structure Nesting where
  /-- How many parentheses are open. -/
  depth : Nat
  /-- Whether a string literal is open. -/
  quoted : Bool
  deriving DecidableEq, Repr

namespace Nesting

/-- Nothing is open. -/
def outer : Nesting := ⟨0, false⟩

/-- **One character further.** A parenthesis that closes none leads nowhere. -/
def advance (n : Nesting) (c : Char) : Option Nesting :=
  if n.quoted then some { n with quoted := c != '\'' }
  else if c = '\'' then some { n with quoted := true }
  else if c = '(' then some { n with depth := n.depth + 1 }
  else if c = ')' then if n.depth = 0 then none else some { n with depth := n.depth - 1 }
  else some n

/-- Inside a literal only a quote counts. -/
theorem advance_quoted (d : Nat) (c : Char) :
    advance ⟨d, true⟩ c = some ⟨d, c != '\''⟩ := rfl

theorem advance_quote (d : Nat) : advance ⟨d, false⟩ '\'' = some ⟨d, true⟩ := rfl

theorem advance_open (d : Nat) : advance ⟨d, false⟩ '(' = some ⟨d + 1, false⟩ := rfl

theorem advance_close (d : Nat) : advance ⟨d + 1, false⟩ ')' = some ⟨d, false⟩ := rfl

theorem advance_close_outer : outer.advance ')' = none := rfl

/-- Any other character changes nothing. -/
theorem advance_plain {c : Char} (hquote : c ≠ '\'') (hopen : c ≠ '(') (hclose : c ≠ ')')
    (n : Nesting) : n.advance c = some n := by
  obtain ⟨d, q⟩ := n
  rcases q with _ | _
  · simp [advance, hquote, hopen, hclose]
  · simp [advance, hquote]

/-- **Reading on.** Where the text leads, unless a parenthesis in it closes none, or a comma stands
where nothing is open although `mayList` does not allow that. -/
def read (mayList : Bool) (n : Nesting) : List Char → Option Nesting
  | [] => some n
  | c :: rest =>
    if mayList = false ∧ n = outer ∧ c = ',' then none
    else (n.advance c).bind fun next => next.read mayList rest

/-- One parenthesis more around everything. -/
def deeper (n : Nesting) : Nesting := { n with depth := n.depth + 1 }

theorem deeper_ne_outer (n : Nesting) : n.deeper ≠ outer := by
  intro h
  cases congrArg depth h

theorem read_cons {mayList : Bool} {n : Nesting} {c : Char} (rest : List Char)
    (h : ¬(mayList = false ∧ n = outer ∧ c = ',')) :
    n.read mayList (c :: rest) = (n.advance c).bind fun next => next.read mayList rest := by
  rw [read, if_neg h]

theorem read_append (mayList : Bool) (n : Nesting) (s t : List Char) :
    n.read mayList (s ++ t) = (n.read mayList s).bind fun next => next.read mayList t := by
  induction s generalizing n with
  | nil => rfl
  | cons c s ih =>
    rw [List.cons_append, read, read]
    by_cases h : mayList = false ∧ n = outer ∧ c = ','
    · rw [if_pos h, if_pos h]
      rfl
    · rw [if_neg h, if_neg h, Option.bind_assoc]
      exact congrArg (n.advance c).bind (funext ih)

/-- A character advances inside a parenthesis as it does outside. The one case in which it would
not is the character that leads nowhere. -/
theorem advance_deeper {n next : Nesting} {c : Char} (h : n.advance c = some next) :
    n.deeper.advance c = some next.deeper := by
  obtain ⟨d, q⟩ := n
  rcases q with _ | _
  · by_cases hquote : c = '\''
    · subst hquote
      rw [advance_quote, Option.some.injEq] at h
      rw [← h, deeper, advance_quote, deeper]
    by_cases hopen : c = '('
    · subst hopen
      rw [advance_open, Option.some.injEq] at h
      rw [← h, deeper, advance_open, deeper]
    by_cases hclose : c = ')'
    · subst hclose
      rcases d with _ | d
      · -- Outside it leads nowhere, and nothing is claimed.
        cases h
      · rw [advance_close, Option.some.injEq] at h
        rw [← h, deeper, advance_close, deeper]
    · rw [advance_plain hquote hopen hclose, Option.some.injEq] at h
      rw [← h, advance_plain hquote hopen hclose]
  · rw [advance_quoted, Option.some.injEq] at h
    rw [← h, deeper, advance_quoted, deeper]

/-- What can be read outside can be read inside a parenthesis, lists included. -/
theorem read_deeper {mayList : Bool} {n next : Nesting} {s : List Char}
    (h : n.read mayList s = some next) : n.deeper.read false s = some next.deeper := by
  induction s generalizing n with
  | nil =>
    cases h
    rfl
  | cons c s ih =>
    rw [read_cons s (fun hc => n.deeper_ne_outer hc.2.1)]
    rw [read] at h
    by_cases hc : mayList = false ∧ n = outer ∧ c = ','
    · rw [if_pos hc] at h
      cases h
    · rw [if_neg hc, Option.bind_eq_some_iff] at h
      obtain ⟨m, hm, hs⟩ := h
      rw [advance_deeper hm, Option.bind_some]
      exact ih hs

/-- What can be read without a list can be read where lists are allowed. -/
theorem read_mayList {n next : Nesting} {s : List Char} (h : n.read false s = some next) :
    n.read true s = some next := by
  induction s generalizing n with
  | nil => exact h
  | cons c s ih =>
    rw [read_cons s (by simp)]
    rw [read] at h
    by_cases hc : false = false ∧ n = outer ∧ c = ','
    · rw [if_pos hc] at h
      cases h
    · rw [if_neg hc, Option.bind_eq_some_iff] at h
      obtain ⟨m, hm, hs⟩ := h
      rw [hm, Option.bind_some]
      exact ih hs

end Nesting

/-! ## Balanced texts and texts in one piece -/

/-- **A balanced text.** It closes what it opens, and nothing else. -/
def IsBalanced (s : String) : Prop := Nesting.outer.read true s.toList = some Nesting.outer

/-- **A text in one piece.** It is balanced and no list outside literals and parentheses. -/
def IsOnePiece (s : String) : Prop := Nesting.outer.read false s.toList = some Nesting.outer

/-- No quote, no comma, no parenthesis. -/
def IsPlainChar (c : Char) : Prop := c ≠ '\'' ∧ c ≠ ',' ∧ c ≠ '(' ∧ c ≠ ')'

instance (c : Char) : Decidable (IsPlainChar c) :=
  inferInstanceAs (Decidable (c ≠ '\'' ∧ c ≠ ',' ∧ c ≠ '(' ∧ c ≠ ')'))

/-- **A plain text.** All its characters are plain. -/
def IsPlain (s : String) : Prop := ∀ c ∈ s.toList, IsPlainChar c

instance (s : String) : Decidable (IsBalanced s) :=
  inferInstanceAs (Decidable (Nesting.outer.read true s.toList = some Nesting.outer))

instance (s : String) : Decidable (IsOnePiece s) :=
  inferInstanceAs (Decidable (Nesting.outer.read false s.toList = some Nesting.outer))

-- The instance is named, since a search may decide instead for every character there is.
instance (s : String) : Decidable (IsPlain s) := List.decidableBAll IsPlainChar s.toList

theorem IsOnePiece.isBalanced {s : String} (h : IsOnePiece s) : IsBalanced s :=
  Nesting.read_mayList h

theorem IsBalanced.append {s t : String} (hs : IsBalanced s) (ht : IsBalanced t) :
    IsBalanced (s ++ t) := by
  rw [IsBalanced, String.toList_append, Nesting.read_append, hs]
  exact ht

theorem IsOnePiece.append {s t : String} (hs : IsOnePiece s) (ht : IsOnePiece t) :
    IsOnePiece (s ++ t) := by
  rw [IsOnePiece, String.toList_append, Nesting.read_append, hs]
  exact ht

theorem isOnePiece_empty : IsOnePiece "" := rfl

/-- **Parentheses** make one piece of a balanced text. -/
theorem IsBalanced.parenthesized {s : String} (h : IsBalanced s) :
    IsOnePiece ("(" ++ s ++ ")") := by
  have hinside : Nesting.outer.deeper.read false s.toList = some Nesting.outer.deeper :=
    Nesting.read_deeper h
  rw [IsOnePiece, String.toList_append, String.toList_append, List.append_assoc,
    Nesting.read_append]
  show (Nesting.outer.deeper.read false (s.toList ++ [')'])) = some Nesting.outer
  rw [Nesting.read_append, hinside]
  rfl

theorem IsPlain.append {s t : String} (hs : IsPlain s) (ht : IsPlain t) : IsPlain (s ++ t) := by
  intro c hc
  rw [String.toList_append, List.mem_append] at hc
  rcases hc with hc | hc
  · exact hs c hc
  · exact ht c hc

/-- A plain text is in one piece. -/
theorem IsPlain.isOnePiece {s : String} (h : IsPlain s) : IsOnePiece s := by
  have hread : ∀ l : List Char, (∀ c ∈ l, IsPlainChar c) →
      Nesting.outer.read false l = some Nesting.outer := by
    intro l hl
    induction l with
    | nil => rfl
    | cons c l ih =>
      obtain ⟨hquote, hcomma, hopen, hclose⟩ := hl c List.mem_cons_self
      rw [Nesting.read_cons l (fun hc => hcomma hc.2.2), Nesting.advance_plain hquote hopen hclose]
      exact ih fun d hd => hl d (List.mem_cons_of_mem c hd)
  exact hread s.toList h

/-- **A list of texts** that are in one piece is balanced. -/
theorem isBalanced_listed {texts : List String} (h : ∀ s ∈ texts, IsOnePiece s) :
    IsBalanced (listed texts) := by
  rw [listed]
  induction texts with
  | nil => exact isOnePiece_empty.isBalanced
  | cons s texts ih =>
    have hs := (h s List.mem_cons_self).isBalanced
    rcases texts with _ | ⟨u, texts⟩
    · rwa [String.intercalate_singleton]
    · rw [String.intercalate_cons_cons]
      have hcomma : IsBalanced ", " := by decide
      exact (hs.append hcomma).append (ih fun v hv => h v (List.mem_cons_of_mem s hv))

/-- **A string literal** is in one piece. The induction is on the quoted text, with the literal
open: a quote in it closes the literal and opens it again. -/
theorem isOnePiece_sqlLiteral (s : String) : IsOnePiece (Text.sqlLiteral s) := by
  have hopen : ∀ l : List Char,
      Nesting.read false ⟨0, true⟩ (Text.doubleQuotes l ++ ['\'']) = some Nesting.outer := by
    intro l
    induction l with
    | nil => rfl
    | cons c l ih =>
      by_cases hc : c = '\''
      · subst hc
        rw [Text.doubleQuotes_quote]
        exact ih
      · rw [Text.doubleQuotes_cons l hc, List.cons_append,
          Nesting.read_cons _ (fun h => absurd (congrArg Nesting.quoted h.2.1) (by decide)),
          Nesting.advance_quoted, Option.bind_some, bne_iff_ne.mpr hc]
        exact ih
  rw [IsOnePiece, Text.sqlLiteral, String.toList_ofList]
  exact hopen s.toList

end SchemaSql
