/-
Finding the elements of a statement in its text.

A CREATE TABLE statement is a list of elements in parentheses, and this file reads that
list back from the text alone. The list starts behind the first parenthesis that stands
outside literals (`interior?`). From there it is cut at every comma that stands outside
literals and outside any further parenthesis, until a parenthesis closes that was not
opened behind the start (`Nesting.cut`). Behind each of these commas one space is taken
away (`listElements?`).

The cut knows nothing about types, defaults or constraints. What it finds is settled by
`cut_of_read`: a text that can be read from one place to another without a comma of the
list goes to the front of the next piece as a whole. So texts in one piece, listed with
a comma and a space, are found again (`cut_listed`).
-/
import SchemaSql.Proofs.Sql.Nesting
import SchemaSql.Script

set_option autoImplicit false

namespace SchemaSql

open SchemaSql.Script

/-! ## The reader -/

/-- **The cut of a list.** The texts between the commas of the list, and what stands behind the
parenthesis that closes it. -/
def Nesting.cut (n : Nesting) : List Char → Option (List (List Char) × List Char)
  | [] => none
  | c :: rest =>
    if n = outer ∧ c = ',' then
      (outer.cut rest).map fun (pieces, after) => ([] :: pieces, after)
    else
      match n.advance c with
      | none => some ([[]], rest)
      | some next => (next.cut rest).map fun (pieces, after) => (consFirst c pieces, after)

/-- What stands behind the first parenthesis outside literals. -/
def interior? (quoted : Bool) : List Char → Option (List Char)
  | [] => none
  | c :: rest =>
    if c = '\'' then interior? (!quoted) rest
    else if c = '(' ∧ quoted = false then some rest
    else interior? quoted rest

/-- A text without one space in front of it. -/
def withoutSpace : List Char → List Char
  | ' ' :: rest => rest
  | s => s

/-- **The elements of a statement.** The texts in its outermost parentheses, cut at the commas of
that list, and what stands behind these parentheses. -/
def listElements? (statement : String) : Option (List String × String) :=
  match (interior? false statement.toList).bind Nesting.outer.cut with
  | some (first :: more, after) =>
    some (String.ofList first :: more.map fun s => String.ofList (withoutSpace s),
      String.ofList after)
  | _ => none

/-! ## What it finds -/

/-- Puts a text in front of the first piece. -/
def appendFirst (s : List Char) : List (List Char) → List (List Char)
  | [] => [s]
  | piece :: rest => (s ++ piece) :: rest

theorem consFirst_appendFirst (c : Char) (s : List Char) (pieces : List (List Char)) :
    consFirst c (appendFirst s pieces) = appendFirst (c :: s) pieces := by
  cases pieces <;> rfl

namespace Nesting

/-- The comma of a list. -/
theorem cut_comma (rest : List Char) :
    outer.cut (',' :: rest)
      = (outer.cut rest).map fun (pieces, after) => ([] :: pieces, after) := by
  rw [cut, if_pos ⟨rfl, rfl⟩]

/-- The end of a list. -/
theorem cut_close (rest : List Char) : outer.cut (')' :: rest) = some ([[]], rest) := by
  rw [cut, if_neg (by decide), advance_close_outer]

/-- No cut is without a piece. -/
theorem cut_ne_nil {n : Nesting} {s after : List Char} {pieces : List (List Char)}
    (h : n.cut s = some (pieces, after)) : pieces ≠ [] := by
  rcases s with _ | ⟨c, s⟩
  · cases h
  · rw [cut] at h
    by_cases hc : n = outer ∧ c = ','
    · rw [if_pos hc, Option.map_eq_some_iff] at h
      obtain ⟨_, -, hpieces⟩ := h
      cases hpieces
      exact List.cons_ne_nil _ _
    · rw [if_neg hc] at h
      rcases hnext : n.advance c with _ | next
      · rw [hnext] at h
        cases h
        exact List.cons_ne_nil _ _
      · rw [hnext] at h
        obtain ⟨⟨_ | ⟨p, ps⟩, _⟩, -, hpieces⟩ := Option.map_eq_some_iff.mp h
        all_goals
          cases hpieces
          exact List.cons_ne_nil _ _

/-- **A text without a comma of the list** goes to the front of the next piece. -/
theorem cut_of_read {n next : Nesting} {s : List Char} (h : n.read false s = some next)
    (rest : List Char) :
    n.cut (s ++ rest)
      = (next.cut rest).map fun (pieces, after) => (appendFirst s pieces, after) := by
  induction s generalizing n with
  | nil =>
    obtain rfl : n = next := Option.some.inj h
    rw [List.nil_append]
    rcases hcut : n.cut rest with _ | ⟨_ | ⟨p, ps⟩, after⟩
    · rfl
    · exact absurd rfl (cut_ne_nil hcut)
    · rfl
  | cons c s ih =>
    rw [read] at h
    by_cases hc : false = false ∧ n = outer ∧ c = ','
    · rw [if_pos hc] at h
      cases h
    · rw [if_neg hc, Option.bind_eq_some_iff] at h
      obtain ⟨m, hm, hs⟩ := h
      -- The cut advances over the character as the reading does.
      rw [List.cons_append, cut, if_neg (fun hcomma => hc ⟨rfl, hcomma⟩), hm]
      show (m.cut (s ++ rest)).map _ = _
      rw [ih hs, Option.map_map]
      congr 1
      funext cut
      exact congrArg (·, cut.2) (consFirst_appendFirst c s cut.1)

/-- **Listed texts are found again**, the first one as it is and each other one behind a space. -/
theorem cut_listed (first : String) (more : List String)
    (h : ∀ s ∈ first :: more, IsOnePiece s) (rest : List Char) :
    outer.cut ((listed (first :: more)).toList ++ ')' :: rest)
      = some (first.toList :: more.map (' ' :: ·.toList), rest) := by
  rw [listed]
  induction more generalizing first with
  | nil =>
    rw [String.intercalate_singleton, cut_of_read (h first List.mem_cons_self), cut_close]
    show some ([first.toList ++ []], rest) = _
    rw [List.append_nil]
    rfl
  | cons second more ih =>
    have hmore : ∀ s ∈ second :: more, IsOnePiece s :=
      fun s hs => h s (List.mem_cons_of_mem first hs)
    have hseparator : ", ".toList = ',' :: [' '] := rfl
    have hspace : outer.read false [' '] = some outer := rfl
    rw [String.intercalate_cons_cons, String.toList_append, String.toList_append,
      List.append_assoc, List.append_assoc, cut_of_read (h first List.mem_cons_self), hseparator,
      List.cons_append, cut_comma, cut_of_read hspace, ih second hmore]
    show some ((first.toList ++ []) :: _, rest) = _
    rw [List.append_nil]
    rfl

end Nesting

/-- Behind a text without quotes and parentheses, the first parenthesis is the next one. -/
theorem interior?_append {s : List Char} (h : ∀ c ∈ s, c ≠ '\'' ∧ c ≠ '(') (rest : List Char) :
    interior? false (s ++ '(' :: rest) = some rest := by
  induction s with
  | nil => rfl
  | cons c s ih =>
    obtain ⟨hquote, hopen⟩ := h c List.mem_cons_self
    rw [List.cons_append, interior?, if_neg hquote, if_neg (fun hc => hopen hc.1)]
    exact ih fun d hd => h d (List.mem_cons_of_mem c hd)

/-- **A list in parentheses is found** behind any plain text. -/
theorem listElements?_eq {statement head after : String} {elements : List String}
    (hstatement : statement = head ++ "(" ++ listed elements ++ ")" ++ after)
    (hhead : IsPlain head) (hne : elements ≠ []) (hpieces : ∀ s ∈ elements, IsOnePiece s) :
    listElements? statement = some (elements, after) := by
  obtain ⟨first, more, rfl⟩ := List.exists_cons_of_ne_nil hne
  have hlist : statement.toList
      = head.toList ++ '(' :: ((listed (first :: more)).toList ++ ')' :: after.toList) := by
    rw [hstatement]
    simp [String.toList_append]
  have hbefore : ∀ c ∈ head.toList, c ≠ '\'' ∧ c ≠ '(' :=
    fun c hc => ⟨(hhead c hc).1, (hhead c hc).2.2.1⟩
  have hspace : ∀ s : String, String.ofList (withoutSpace (' ' :: s.toList)) = s :=
    fun s => String.ofList_toList
  rw [listElements?, hlist, interior?_append hbefore, Option.bind_some,
    Nesting.cut_listed first more hpieces]
  simp [hspace, String.ofList_toList, List.map_map, Function.comp_def]

end SchemaSql
