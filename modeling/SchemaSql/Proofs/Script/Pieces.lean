/-
How the cut of a script behaves.

One law carries the rest: at a semicolon that no backslash precedes, the cut of a text
is the cut of what stands before it, followed by the cut of what stands behind it
(`pieces_append_terminator`). The condition is about one character, the last one before
the semicolon. Nothing further back matters, however many backslashes stand there,
because the cut never looks at more than a character and the one behind it.

The second fact is that escaping undoes the cut: an escaped text is a single piece, and
that piece is the text (`pieces_escapeChars`). Escaping keeps the last character
(`getLast?_escapeChars`), so the condition of the first law can be read off the text
before it is escaped.
-/
import SchemaSql.Script

set_option autoImplicit false

namespace SchemaSql.Script

/-! ## The first piece -/

/-- There is always a piece. -/
theorem pieces_ne_nil (s : List Char) : pieces s ≠ [] := by
  fun_cases pieces s with
  | case1 => simp
  | case2 rest => cases pieces rest <;> simp [consFirst]
  | case3 rest => simp
  | case4 c rest => cases pieces rest <;> simp [consFirst]

/-- A character in front of the first piece leaves the pieces behind the first alone. -/
theorem consFirst_append {c : Char} {ps : List (List Char)} (h : ps ≠ [])
    (qs : List (List Char)) : consFirst c (ps ++ qs) = consFirst c ps ++ qs := by
  cases ps with
  | nil => exact absurd rfl h
  | cons p ps => rfl

/-! ## The cut at a terminator -/

/-- What does not end a text does not end the text without its first character. -/
theorem getLast?_ne_of_cons {c x : Char} {s : List Char} (h : (c :: s).getLast? ≠ some x) :
    s.getLast? ≠ some x := by
  cases s with
  | nil => simp
  | cons d s => rwa [List.getLast?_cons_cons] at h

/-- **A bare semicolon cuts the text in two**, each half being cut on its own. The induction follows
the cut of the first half; what the last character is matters only in the last step, where it
decides whether the semicolon is bare. -/
theorem pieces_append_terminator (s rest : List Char) (h : s.getLast? ≠ some '\\') :
    pieces (s ++ ';' :: rest) = pieces s ++ pieces rest := by
  fun_induction pieces s with
  | case1 => rw [List.nil_append, pieces_terminator, List.singleton_append]
  | case2 s ih =>
    have hs : s.getLast? ≠ some '\\' := getLast?_ne_of_cons (getLast?_ne_of_cons h)
    rw [List.cons_append, List.cons_append, pieces_escape, ih hs,
      consFirst_append (pieces_ne_nil s)]
  | case3 s ih =>
    rw [List.cons_append, pieces_terminator, ih (getLast?_ne_of_cons h), List.cons_append]
  | case4 c s hescape hc ih =>
    -- A backslash at the very end is ruled out, so the character behind `c` is still one of `s`.
    have hnext : c = '\\' → (s ++ ';' :: rest).head? ≠ some ';' := by
      rintro rfl
      cases s with
      | nil => exact absurd rfl h
      | cons d s =>
        intro hd
        rw [List.cons_append, List.head?_cons, Option.some.injEq] at hd
        exact hescape s rfl (by rw [hd])
    rw [List.cons_append, pieces_char hc hnext, ih (getLast?_ne_of_cons h),
      consFirst_append (pieces_ne_nil s)]

/-! ## Escaped text -/

theorem escapeChars_append (s t : List Char) :
    escapeChars (s ++ t) = escapeChars s ++ escapeChars t :=
  List.flatMap_append

/-- No escaped text starts with a semicolon. -/
theorem head?_escapeChars_ne (s : List Char) : (escapeChars s).head? ≠ some ';' := by
  cases s with
  | nil => simp
  | cons c s =>
    by_cases hc : c = ';'
    · subst hc
      rw [escapeChars_semicolon]
      simp
    · rw [escapeChars_cons s hc]
      simpa using hc

/-- **Escaping undoes the cut.** An escaped text is one piece, and the piece is the text. -/
theorem pieces_escapeChars (s : List Char) : pieces (escapeChars s) = [s] := by
  induction s with
  | nil => rfl
  | cons c s ih =>
    by_cases hc : c = ';'
    · subst hc
      rw [escapeChars_semicolon, pieces_escape, ih, consFirst]
    · rw [escapeChars_cons s hc, pieces_char hc (fun _ => head?_escapeChars_ne s), ih, consFirst]

/-- Escaping keeps the last character: an escaped semicolon ends in a semicolon. -/
theorem getLast?_escapeChars (s : List Char) : (escapeChars s).getLast? = s.getLast? := by
  rcases List.eq_nil_or_concat s with rfl | ⟨s, c, rfl⟩
  · rfl
  · rw [List.concat_eq_append, escapeChars_append, List.getLast?_concat]
    by_cases hc : c = ';'
    · subst hc
      rw [escapeChars_semicolon]
      simp
    · rw [escapeChars_cons [] hc, escapeChars_nil, List.getLast?_concat]

end SchemaSql.Script
