/-
Scripts put together with semicolons.

A semicolon between two scripts ends the last statement of the first one. So the two are read
as if each of them stood alone, whatever they hold: escapes, empty pieces, blanks at the seam.
There is one thing that can go wrong. If the first script ends in a backslash, the semicolon is
not bare any more, and the seam is an escape.

That the law fails then, and for every second script, is seen in the backslashes. Reading drops
one for each escape and keeps the others (`count_statements`), and the seam has an escape that
neither of the scripts has (`escapes_append_terminator`). So a seam of this kind costs a
backslash. The same count settles any number of scripts, where the backslashes that are missing
are as many as the seams that are escapes (`backslashes_statements_intercalate`).
-/
import SchemaSql.Proofs.Script.Printed

set_option autoImplicit false

namespace SchemaSql.Script

/-! ## The seam -/

/-- Whether a script ends in a backslash, so that a semicolon behind it would be escaped. -/
def EndsInBackslash (script : String) : Prop := script.toList.getLast? = some '\\'

instance : DecidablePred EndsInBackslash := fun script =>
  inferInstanceAs (Decidable (script.toList.getLast? = some '\\'))

theorem toList_append_terminator (a b : String) :
    (a ++ ";" ++ b).toList = a.toList ++ ';' :: b.toList := by
  rw [String.toList_append, String.toList_append, List.append_assoc]
  rfl

/-- The escapes of two texts with a semicolon between them. There is one more if the semicolon is
escaped. -/
theorem escapes_append_terminator (s rest : List Char) :
    escapes (s ++ ';' :: rest)
      = escapes s + (if s.getLast? = some '\\' then 1 else 0) + escapes rest := by
  fun_induction escapes s with
  | case1 =>
    rw [List.nil_append, escapes_char (fun h => absurd h (by decide)), List.getLast?_nil,
      if_neg (by simp)]
    omega
  | case2 s ih =>
    have hlast : ('\\' :: ';' :: s).getLast? = some '\\' ↔ s.getLast? = some '\\' := by
      cases s with
      | nil => simp
      | cons d s => rw [List.getLast?_cons_cons, List.getLast?_cons_cons]
    rw [List.cons_append, List.cons_append, escapes_escape, ih]
    simp only [hlast]
    omega
  | case3 c s hescape ih =>
    rcases s with _ | ⟨d, s⟩
    · -- The last character, which decides about the seam.
      have hterminator : escapes (';' :: rest) = escapes rest :=
        escapes_char fun h => absurd h (by decide)
      rw [List.getLast?_singleton, List.singleton_append]
      by_cases hc : c = '\\'
      · subst hc
        rw [escapes_escape, escapes, if_pos rfl]
        omega
      · rw [escapes_char (fun h => absurd h hc), hterminator, escapes, if_neg (by simpa using hc)]
        omega
    · have hnext : c = '\\' → (d :: s ++ ';' :: rest).head? ≠ some ';' := by
        rintro rfl hd
        rw [List.cons_append, List.head?_cons, Option.some.injEq] at hd
        exact hescape s rfl (by rw [hd])
      rw [List.cons_append, escapes_char hnext, ih, List.getLast?_cons_cons]

/-! ## Backslashes -/

/-- The number of backslashes in some statements. -/
def backslashes (list : List String) : Nat := (list.flatMap String.toList).count '\\'

theorem backslashes_append (list more : List String) :
    backslashes (list ++ more) = backslashes list + backslashes more := by
  rw [backslashes, List.flatMap_append, List.count_append, ← backslashes, ← backslashes]

theorem backslashes_statements (script : String) :
    backslashes (statements script) + escapes script.toList = script.toList.count '\\' :=
  count_statements script

/-- **What a seam costs**: a backslash, if it is an escape. -/
theorem backslashes_statements_append (a b : String) :
    backslashes (statements (a ++ ";" ++ b)) + (if EndsInBackslash a then 1 else 0)
      = backslashes (statements a) + backslashes (statements b) := by
  have hseam : escapes (a ++ ";" ++ b).toList
      = escapes a.toList + (if EndsInBackslash a then 1 else 0) + escapes b.toList := by
    rw [toList_append_terminator]
    exact escapes_append_terminator a.toList b.toList
  have hcount : (a ++ ";" ++ b).toList.count '\\'
      = a.toList.count '\\' + b.toList.count '\\' := by
    rw [toList_append_terminator, List.count_append, List.count_cons_of_ne (by decide)]
  have hjoined := backslashes_statements (a ++ ";" ++ b)
  have ha := backslashes_statements a
  have hb := backslashes_statements b
  omega

/-! ## Two scripts -/

/-- **Two scripts are read apart** if the semicolon between them is bare. -/
theorem statements_append_terminator {a b : String} (h : ¬EndsInBackslash a) :
    statements (a ++ ";" ++ b) = statements a ++ statements b := by
  rw [statements, toList_append_terminator, pieces_append_terminator _ _ h, List.filterMap_append,
    ← statements, ← statements]

theorem statements_append_terminator_iff (a b : String) :
    statements (a ++ ";" ++ b) = statements a ++ statements b ↔ ¬EndsInBackslash a := by
  refine ⟨?_, statements_append_terminator⟩
  intro h hlast
  have hcost := backslashes_statements_append a b
  rw [h, backslashes_append, if_pos hlast] at hcost
  omega

/-! ## Any number of scripts -/

theorem intercalate_terminator_cons {blobs : List String} (h : blobs ≠ []) (a : String) :
    ";".intercalate (a :: blobs) = a ++ ";" ++ ";".intercalate blobs :=
  String.intercalate_cons_of_ne_nil h

/-- The backslashes that are missing where scripts are put together: one for each seam that is an
escape. -/
theorem backslashes_statements_intercalate (blobs : List String) :
    backslashes (statements (";".intercalate blobs)) + blobs.dropLast.countP (EndsInBackslash ·)
      = backslashes (blobs.flatMap statements) := by
  induction blobs with
  | nil => rfl
  | cons a blobs ih =>
    rcases eq_or_ne blobs [] with rfl | hblobs
    · simp
    · have hcost := backslashes_statements_append a (";".intercalate blobs)
      rw [intercalate_terminator_cons hblobs, List.dropLast_cons_of_ne_nil hblobs,
        List.countP_cons, List.flatMap_cons, backslashes_append, ← ih]
      simp only [decide_eq_true_eq]
      omega

/-- **Scripts put together are read apart** exactly if no script but the last one ends in a
backslash. This is so for two scripts with a semicolon between them, whatever the second one is, and
for any number of them. -/
theorem joined_scripts_are_read_apart :
    (∀ a b : String, statements (a ++ ";" ++ b) = statements a ++ statements b
        ↔ ¬EndsInBackslash a)
      ∧ ∀ blobs : List String, statements (";".intercalate blobs) = blobs.flatMap statements
        ↔ ∀ a ∈ blobs.dropLast, ¬EndsInBackslash a := by
  refine ⟨statements_append_terminator_iff, ?_⟩
  intro blobs
  constructor
  · intro h
    have hmissing := backslashes_statements_intercalate blobs
    rw [h] at hmissing
    have hnone : blobs.dropLast.countP (EndsInBackslash ·) = 0 := by omega
    simpa using List.countP_eq_zero.mp hnone
  · intro h
    induction blobs with
    | nil => rfl
    | cons a blobs ih =>
      rcases eq_or_ne blobs [] with rfl | hblobs
      · simp
      · rw [List.dropLast_cons_of_ne_nil hblobs, List.forall_mem_cons] at h
        rw [intercalate_terminator_cons hblobs, statements_append_terminator h.1, ih h.2,
          List.flatMap_cons]

/-- An empty script, blanks and an escape at the seams, and a backslash at the very end. -/
example : statements (";".intercalate ["a\\;b ", "", "\n;c\\; ", "d\\"])
    = ["a;b;", "c;;", "d\\;"] := by
  decide +kernel

end SchemaSql.Script
