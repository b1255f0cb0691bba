/-
Statements printed one after the other.

A script that is written encodes its statements. The command line does not: it prints each
statement as it is, with a line end behind it (`printed`). Such a text is easy to read for
people, and this file says when it can be read as a script again.

It can if nothing in the statements would have been encoded, since then printing and writing
give the same text up to the line ends (`statements_printed_of_isVerbatim`). It cannot
otherwise. What makes this difficult is that a semicolon inside a statement cuts it and a
backslash before a terminator joins two statements, so that the number of the statements
says nothing. The backslashes do. Printing keeps them, trimming keeps them, and reading
drops one for each escape (`count_flatten_pieces`). If the same statements come back, no
escape was read. So there is no backslash before a terminator, and no semicolon is in a
piece of the script, hence in a statement (`not_mem_of_mem_pieces`).
-/
import SchemaSql.Proofs.Script.ByPosition
import SchemaSql.Proofs.Script.Normal

set_option autoImplicit false

namespace SchemaSql.Script

open SchemaSql.Text

/-! ## Printing -/

/-- **Printed statements**, each with a line end. -/
def printed (list : List String) : String := String.join (list.map (· ++ "\n"))

/-- **A statement that needs no encoding.** Its body has no semicolon and does not end in a
backslash. -/
def IsVerbatim (s : String) : Prop :=
  ';' ∉ body s.toList ∧ (body s.toList).getLast? ≠ some '\\'

instance : DecidablePred IsVerbatim := fun s =>
  inferInstanceAs (Decidable (';' ∉ body s.toList ∧ (body s.toList).getLast? ≠ some '\\'))

theorem toList_printed_cons (s : String) (list : List String) :
    (printed (s :: list)).toList = s.toList ++ '\n' :: (printed list).toList := by
  unfold printed
  rw [List.map_cons, String.join_cons, String.toList_append, String.toList_append,
    List.append_assoc]
  rfl

/-! ## Escapes -/

/-- The number of escapes in a text. -/
def escapes : List Char → Nat
  | [] => 0
  | '\\' :: ';' :: rest => escapes rest + 1
  | _ :: rest => escapes rest

theorem escapes_escape (rest : List Char) : escapes ('\\' :: ';' :: rest) = escapes rest + 1 := by
  rw [escapes]

theorem escapes_char {c : Char} {rest : List Char} (h : c = '\\' → rest.head? ≠ some ';') :
    escapes (c :: rest) = escapes rest := by
  rw [escapes]
  intro tail hc hrest
  subst hc hrest
  exact h rfl rfl

/-- **Each escape costs a backslash.** All the others are in the pieces. -/
theorem count_flatten_pieces (s : List Char) :
    (pieces s).flatten.count '\\' + escapes s = s.count '\\' := by
  -- Along the cut. A terminator is lost too, but it is no backslash.
  fun_induction pieces s with
  | case1 => rfl
  | case2 rest ih =>
    rw [flatten_consFirst, escapes_escape, List.count_cons_of_ne (by decide),
      List.count_cons_self, List.count_cons_of_ne (by decide)]
    omega
  | case3 rest ih =>
    rw [List.flatten_cons, List.nil_append, escapes_char (fun h => absurd h (by decide)), ih,
      List.count_cons_of_ne (by decide)]
  | case4 c rest hescape hc ih =>
    rw [flatten_consFirst, escapes_char (head?_ne_of_not_escape hescape), List.count_cons,
      List.count_cons]
    omega

/-- Without an escape all semicolons are terminators. -/
theorem not_mem_of_mem_pieces {s p : List Char} (h : escapes s = 0) (hp : p ∈ pieces s) :
    ';' ∉ p := by
  fun_induction pieces s generalizing p with
  | case1 =>
    rw [List.mem_singleton.mp hp]
    exact List.not_mem_nil
  | case2 rest ih =>
    rw [escapes_escape] at h
    omega
  | case3 rest ih =>
    rw [escapes_char (fun h => absurd h (by decide))] at h
    rcases List.mem_cons.mp hp with rfl | hp
    · exact List.not_mem_nil
    · exact ih h hp
  | case4 c rest hescape hc ih =>
    rw [escapes_char (head?_ne_of_not_escape hescape)] at h
    obtain ⟨first, more, hrest⟩ := List.exists_cons_of_ne_nil (pieces_ne_nil rest)
    rw [hrest, consFirst] at hp
    rcases List.mem_cons.mp hp with rfl | hp
    · rw [List.mem_cons, not_or]
      exact ⟨Ne.symm hc, ih h (hrest ▸ List.mem_cons_self)⟩
    · exact ih h (hrest ▸ List.mem_cons_of_mem first hp)

/-- An escape that stands somewhere in a text is counted. -/
theorem escapes_append_escape_ne_zero (s rest : List Char) :
    escapes (s ++ '\\' :: ';' :: rest) ≠ 0 := by
  induction s using escapes.induct with
  | case1 =>
    rw [List.nil_append, escapes_escape]
    omega
  | case2 s ih =>
    rw [List.cons_append, List.cons_append, escapes_escape]
    omega
  | case3 c s hescape ih =>
    -- Where the parts meet no escape is made, since the second one starts with a backslash.
    have hnext : c = '\\' → (s ++ '\\' :: ';' :: rest).head? ≠ some ';' := by
      rintro rfl
      rcases s with _ | ⟨d, s⟩
      · rw [List.nil_append, List.head?_cons]
        decide
      · intro hd
        rw [List.cons_append, List.head?_cons, Option.some.injEq] at hd
        exact hescape s rfl (by rw [hd])
    rwa [List.cons_append, escapes_char hnext]

/-! ## What printing and reading keep -/

theorem count_printed (list : List String) :
    (printed list).toList.count '\\' = (list.flatMap String.toList).count '\\' := by
  induction list with
  | nil => rfl
  | cons s list ih =>
    rw [toList_printed_cons, List.count_append, List.count_cons_of_ne (by decide), ih,
      List.flatMap_cons, List.count_append]

theorem count_toList_of_statement? {p : List Char} {s : String} (h : statement? p = some s) :
    s.toList.count '\\' = p.count '\\' := by
  obtain ⟨-, rfl⟩ := statement?_eq_some_iff.mp h
  rw [String.toList_ofList, List.count_append, count_trim (by decide), List.count_singleton,
    if_neg (by decide), Nat.add_zero]

/-- What is not a statement is blank. -/
theorem count_of_statement?_eq_none {p : List Char} (h : statement? p = none) :
    p.count '\\' = 0 := by
  have hnil : trim p = [] := by
    by_contra hne
    rw [statement?_eq_some_iff.mpr ⟨hne, rfl⟩] at h
    cases h
  rw [← count_trim (by decide) p, hnil, List.count_nil]

/-- Trimming the pieces and terminating them keeps the backslashes. -/
theorem count_filterMap_statement? (ps : List (List Char)) :
    ((ps.filterMap statement?).flatMap String.toList).count '\\' = ps.flatten.count '\\' := by
  induction ps with
  | nil => rfl
  | cons p ps ih =>
    rw [List.flatten_cons, List.count_append, ← ih]
    cases hs : statement? p with
    | none => rw [List.filterMap_cons_none hs, count_of_statement?_eq_none hs, Nat.zero_add]
    | some s =>
      rw [List.filterMap_cons_some hs, List.flatMap_cons, List.count_append,
        count_toList_of_statement? hs]

/-- **What reading does to backslashes**: it drops one for each escape and keeps the others. -/
theorem count_statements (script : String) :
    ((statements script).flatMap String.toList).count '\\' + escapes script.toList
      = script.toList.count '\\' := by
  rw [statements, count_filterMap_statement?, count_flatten_pieces]

/-- **No escape is read** where the printed statements come back. -/
theorem escapes_printed_eq_zero {list : List String} (h : statements (printed list) = list) :
    escapes (printed list).toList = 0 := by
  have hcount := count_statements (printed list)
  rw [h, count_printed] at hcount
  omega

/-! ## When the statements come back -/

/-- A statement stands in the print as it is. -/
theorem exists_append_of_mem_printed {list : List String} {s : String} (h : s ∈ list) :
    ∃ front rest, (printed list).toList = front ++ (s.toList ++ rest) := by
  induction list with
  | nil => cases h
  | cons t list ih =>
    rw [toList_printed_cons]
    rcases List.mem_cons.mp h with rfl | h
    · exact ⟨[], '\n' :: (printed list).toList, rfl⟩
    · obtain ⟨front, rest, hsplit⟩ := ih h
      refine ⟨t.toList ++ '\n' :: front, rest, ?_⟩
      rw [hsplit, List.append_assoc, List.cons_append]

theorem escapeChars_eq_self {s : List Char} (h : ';' ∉ s) : escapeChars s = s := by
  induction s with
  | nil => rfl
  | cons c s ih =>
    rw [List.mem_cons, not_or] at h
    rw [escapeChars_cons s (Ne.symm h.1), ih h.2]

/-- A terminated statement that needs no encoding is encoded as it is. -/
theorem encode_eq_self {s : String} (hs : IsNormal s) (h : IsVerbatim s) : encode s = s := by
  obtain ⟨b, -, -, hlist⟩ := hs
  have hbody : body s.toList = b := by rw [hlist, body_concat_semicolon]
  obtain ⟨hsemicolon, hlast⟩ := h
  rw [hbody] at hsemicolon hlast
  rw [encode, encodeChars, hbody, escapeChars_eq_self hsemicolon, ending, if_neg hlast, ← hlist,
    String.ofList_toList]

/-- **Statements that need no encoding come back** from their print, because it is what would be
written for them. -/
theorem statements_printed_of_isVerbatim {list : List String} (hlist : ∀ s ∈ list, IsNormal s)
    (h : ∀ s ∈ list, IsVerbatim s) : statements (printed list) = list := by
  rw [statements]
  induction list with
  | nil => rfl
  | cons s list ih =>
    have hs : IsNormal s := hlist s List.mem_cons_self
    have hencode : s.toList = (encode s).toList := by
      rw [encode_eq_self hs (h s List.mem_cons_self)]
    have hrest := ih (fun u hu => hlist u (List.mem_cons_of_mem s hu))
      (fun u hu => h u (List.mem_cons_of_mem s hu))
    -- The cut gives the statement, and the line end goes to the next piece, as a blank.
    rw [toList_printed_cons, hencode, filterMap_pieces_encode, normalForm?_of_isNormal hs,
      filterMap_pieces_line_break, hrest]
    rfl

/-- **When printed statements come back.** A list of statements is read from its print exactly if no
statement in it has a semicolon in its body or a backslash at the end of its body. -/
theorem statements_printed_iff {list : List String} (hlist : ∀ s ∈ list, IsNormal s) :
    statements (printed list) = list ↔ ∀ s ∈ list, IsVerbatim s := by
  refine ⟨?_, statements_printed_of_isVerbatim hlist⟩
  intro h s hs
  have hescapes : escapes (printed list).toList = 0 := escapes_printed_eq_zero h
  obtain ⟨b, -, -, hterminated⟩ := hlist s hs
  have hbody : body s.toList = b := by rw [hterminated, body_concat_semicolon]
  rw [IsVerbatim, hbody]
  refine ⟨?_, ?_⟩
  · -- The statement was read, so its body is a piece, trimmed.
    have hread : s ∈ statements (printed list) := h.symm ▸ hs
    obtain ⟨p, hp, hsome⟩ := List.mem_filterMap.mp hread
    obtain ⟨-, hstatement⟩ := statement?_eq_some_iff.mp hsome
    have htrim : trim p = b := by
      rw [← hbody, ← hstatement, String.toList_ofList, body_concat_semicolon]
    rw [← htrim, ← List.count_eq_zero, count_trim (by decide), List.count_eq_zero]
    exact not_mem_of_mem_pieces hescapes hp
  · intro hlast
    obtain ⟨front, rfl⟩ := List.getLast?_eq_some_iff.mp hlast
    obtain ⟨before, rest, hsplit⟩ := exists_append_of_mem_printed hs
    -- The backslash and the terminator behind it.
    have hescape : (printed list).toList = (before ++ front) ++ '\\' :: ';' :: rest := by
      rw [hsplit, hterminated, List.append_assoc, List.append_assoc, List.append_assoc]
      rfl
    rw [hescape] at hescapes
    exact escapes_append_escape_ne_zero _ _ hescapes

/-- A cut and a join leave the number of statements as it was. -/
example : statements (printed ["a;b;", "c\\;", "d;"]) = ["a;", "b;", "c;\nd;"] := by
  decide +kernel

end SchemaSql.Script
