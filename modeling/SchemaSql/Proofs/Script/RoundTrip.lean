/-
A script that was written is read back.

Writing encodes each statement on its own and puts a line break between two of them.
Reading has to find the same borders again, whatever the statements contain. The one
thing that could hide a border is a backslash in front of a terminator, and the space
that `ending` puts between the two rules it out: the text before a terminator is an
escaped text that does not end in a backslash (`encodeChars_eq`). So the cut at that
terminator separates the statement from everything behind it
(`pieces_encodeChars_append`), and the piece is the body of the statement, perhaps with
a space that was not there before. That space and the line break in front of the next
statement are blanks at the end of a piece; no statement depends on them.

What is read back is therefore each statement in its normal form (`normalForm?`), which
depends on that statement alone. A statement without a body has none and leaves no
trace in the script but its terminator.
-/
import SchemaSql.Proofs.Script.Pieces
import SchemaSql.Proofs.Text.Trim

set_option autoImplicit false

namespace SchemaSql.Script

open SchemaSql.Text

/-! ## Normal forms -/

/-- **A text without one final semicolon.** -/
def withoutTerminator (s : List Char) : List Char := ([';'].isSuffixOf? s).getD s

/-- **The normal form of a statement.** One final semicolon is taken away, if there is one, and
what is left is trimmed and terminated. A blank text has none. -/
def normalForm? (s : String) : Option String :=
  match trim (withoutTerminator s.toList) with
  | [] => none
  | trimmed => some (String.ofList (trimmed ++ [';']))

/-- It is the body that the writer encodes. -/
theorem withoutTerminator_eq_body (s : List Char) : withoutTerminator s = body s := by
  show (([';'].isPrefixOf? s.reverse).map List.reverse).getD s = body s
  by_cases hlast : s.getLast? = some ';'
  · obtain ⟨front, rfl⟩ := List.getLast?_eq_some_iff.mp hlast
    have hstrip : [';'].isPrefixOf? (';' :: front.reverse) = some front.reverse := rfl
    rw [body_concat_semicolon, List.reverse_concat, hstrip, Option.map_some, List.reverse_reverse,
      Option.getD_some]
  · have hstrip : [';'].isPrefixOf? s.reverse = none := by
      rw [List.getLast?_eq_head?_reverse] at hlast
      cases hreverse : s.reverse with
      | nil => rfl
      | cons c rest =>
        -- The last character comes first here, and it is no semicolon.
        have hc : ';' ≠ c := by
          rintro rfl
          rw [hreverse] at hlast
          exact hlast rfl
        exact if_neg (mt beq_iff_eq.mp hc)
    rw [body_eq_self hlast, hstrip, Option.map_none, Option.getD_none]

/-- The normal form is what a piece with the body of the statement is read as. -/
theorem normalForm?_eq (s : String) : normalForm? s = statement? (body s.toList) := by
  rw [← withoutTerminator_eq_body]
  rfl

/-- **A normal statement.** A terminated text is its own normal form if neither its first character
nor the last one before the terminator is blank. -/
theorem normalForm?_eq_self {s : String} {c e : Char} {m : List Char}
    (h : s.toList = c :: m ++ [e] ++ [';']) (hc : isBlank c = false) (he : isBlank e = false) :
    normalForm? s = some s := by
  rw [normalForm?_eq, h, body_concat_semicolon, statement?, trim_between m hc he]
  show some (String.ofList (c :: m ++ [e] ++ [';'])) = some s
  rw [← h, String.ofList_toList]

/-! ## One encoded statement -/

/-- A body as it is encoded: a final backslash is kept clear of the terminator by a space. -/
def padded (b : List Char) : List Char := if b.getLast? = some '\\' then b ++ [' '] else b

/-- No padded body ends in a backslash. -/
theorem getLast?_padded_ne (b : List Char) : (padded b).getLast? ≠ some '\\' := by
  rw [padded]
  by_cases hb : b.getLast? = some '\\'
  · rw [if_pos hb, List.getLast?_concat]
    decide
  · rw [if_neg hb]
    exact hb

/-- The space does not change what a piece is read as. -/
theorem statement?_padded (b : List Char) : statement? (padded b) = statement? b := by
  rw [padded]
  by_cases hb : b.getLast? = some '\\'
  · rw [if_pos hb, statement?, statement?, trim_concat_of_blank b (by decide)]
  · rw [if_neg hb]

/-- An encoded statement is an escaped text and one bare terminator. -/
theorem encodeChars_eq (s : List Char) :
    encodeChars s = escapeChars (padded (body s)) ++ [';'] := by
  simp only [encodeChars, ending, padded, getLast?_escapeChars]
  by_cases hb : (body s).getLast? = some '\\'
  · rw [if_pos hb, if_pos hb, escapeChars_append, escapeChars_cons [] (by decide),
      escapeChars_nil, List.append_assoc]
    rfl
  · rw [if_neg hb, if_neg hb]

/-- **The border of an encoded statement.** Whatever follows it in the script, the cut gives its
body as a piece of its own. -/
theorem pieces_encodeChars_append (s rest : List Char) :
    pieces (encodeChars s ++ rest) = padded (body s) :: pieces rest := by
  have hlast : (escapeChars (padded (body s))).getLast? ≠ some '\\' := by
    rw [getLast?_escapeChars]
    exact getLast?_padded_ne (body s)
  rw [encodeChars_eq, List.append_assoc, List.singleton_append,
    pieces_append_terminator _ rest hlast, pieces_escapeChars, List.singleton_append]

/-! ## Whole scripts -/

/-- A blank in front of a script belongs to no statement. -/
theorem filterMap_consFirst {c : Char} (h : isBlank c = true) {ps : List (List Char)}
    (hps : ps ≠ []) : (consFirst c ps).filterMap statement? = ps.filterMap statement? := by
  cases ps with
  | nil => exact absurd rfl hps
  | cons p ps =>
    have hp : statement? (c :: p) = statement? p := by
      rw [statement?, statement?, trim_cons_of_blank p h]
    rw [consFirst, List.filterMap_cons, List.filterMap_cons, hp]

/-- A line break between two statements belongs to none of them. -/
theorem filterMap_pieces_line_break (rest : List Char) :
    (pieces ('\n' :: rest)).filterMap statement? = (pieces rest).filterMap statement? := by
  rw [pieces_char (by decide) (fun h => absurd h (by decide)),
    filterMap_consFirst (by decide) (pieces_ne_nil rest)]

/-- Reading an encoded statement and what follows it. -/
theorem filterMap_pieces_encode (s : String) (rest : List Char) :
    (pieces ((encode s).toList ++ rest)).filterMap statement?
      = (normalForm? s).toList ++ (pieces rest).filterMap statement? := by
  rw [encode, String.toList_ofList, pieces_encodeChars_append, List.filterMap_cons,
    statement?_padded, ← normalForm?_eq]
  cases normalForm? s <;> rfl

/-- **Reading back a script.** Of the statements that were written, those with a body come back, in
their order and in normal form. -/
theorem statements_ofStatements (written : List String) :
    statements (ofStatements written) = written.filterMap normalForm? := by
  rw [statements, ofStatements]
  induction written with
  | nil => rfl
  | cons s written ih =>
    have hs : (s :: written).filterMap normalForm?
        = (normalForm? s).toList ++ written.filterMap normalForm? := by
      rw [List.filterMap_cons]
      cases normalForm? s <;> rfl
    cases written with
    | nil =>
      have hone := filterMap_pieces_encode s []
      rw [List.append_nil] at hone
      rw [List.map_singleton, String.intercalate_singleton, hone, hs]
      rfl
    | cons t written =>
      -- The line break is the first character behind the terminator, hence in front of the script
      -- of the remaining statements.
      rw [List.map_cons, List.map_cons, String.intercalate_cons_cons, ← List.map_cons,
        String.toList_append, String.toList_append, List.append_assoc, filterMap_pieces_encode,
        hs, ← ih]
      congr 1
      exact filterMap_pieces_line_break _

/-- Statements in normal form come back as they are. -/
theorem statements_ofStatements_of_normal {written : List String}
    (h : ∀ s ∈ written, normalForm? s = some s) : statements (ofStatements written) = written := by
  rw [statements_ofStatements]
  induction written with
  | nil => rfl
  | cons s written ih =>
    rw [List.filterMap_cons_some (h s List.mem_cons_self),
      ih (fun u hu => h u (List.mem_cons_of_mem s hu))]

/-- **Statements keep their borders.** Reading back a written script gives the normal forms of what
was written, in order. So two statements are never merged, since a script of two parts reads as the
first part and then the second, and none is ever cut, since a script of one reads as at most one. -/
theorem written_script_keeps_borders (written more : List String) :
    statements (ofStatements written) = written.filterMap normalForm?
      ∧ statements (ofStatements (written ++ more))
          = statements (ofStatements written) ++ statements (ofStatements more)
      ∧ ∀ s, (statements (ofStatements [s])).length ≤ 1 := by
  refine ⟨statements_ofStatements written, ?_, ?_⟩
  · rw [statements_ofStatements, statements_ofStatements, statements_ofStatements,
      List.filterMap_append]
  · intro s
    rw [statements_ofStatements]
    exact List.length_filterMap_le _ _

/-- A final backslash, an escaped semicolon, a blank text and a second terminator. -/
example : statements (ofStatements ["a\\", "b\\;c", "  ;", "d;;"])
    = ["a\\;", "b\\;c;", "d;;"] := by decide +kernel

end SchemaSql.Script
