/-
Trimming, seen from both ends.

`SchemaSql.Text.Blank` says what one cut does: a blank at an end goes, and behind a
character that is not blank nothing changes. Trimming is two cuts, one at each end, and
this file carries the two facts over to it. A blank may be put in front of a text or
behind it without changing what is left of it (`trim_cons_of_blank`,
`trim_concat_of_blank`), and a text with other characters at both ends is left alone
(`trim_between`). What stands between two statements of a script, and between a body
and its terminator, is such a blank.

Trimming twice is trimming once (`trim_trim`). Each cut alone does nothing the second
time, and the cut at the end does not bring a blank to the front, since what it leaves
is the front of the text it was given. Of characters that are not blank none is lost
(`count_trim`).
-/
import Mathlib.Data.List.Induction
import SchemaSql.Text.Blank

set_option autoImplicit false

namespace SchemaSql.Text

/-- A blank in front is trimmed. -/
theorem trim_cons_of_blank {c : Char} (s : List Char) (h : isBlank c = true) :
    trim (c :: s) = trim s := by
  rw [trim, trim, trimStart_cons_of_blank s h]

/-- A blank at the end is trimmed. The induction is on the text, since the front is cut first: a
blank there is cut with and without the last one, and any other character keeps the rest as it
is. -/
theorem trim_concat_of_blank {c : Char} (s : List Char) (h : isBlank c = true) :
    trim (s ++ [c]) = trim s := by
  induction s with
  | nil => rw [List.nil_append, trim_cons_of_blank [] h]
  | cons d s ih =>
    cases hd : isBlank d with
    | true =>
      rw [List.cons_append, trim_cons_of_blank _ hd, trim_cons_of_blank _ hd, ih]
    | false =>
      rw [trim, trim, List.cons_append, trimStart_cons_of_not_blank _ hd,
        trimStart_cons_of_not_blank _ hd, ← List.cons_append, trimEnd_concat_of_blank _ h]

/-- **A text between two characters that are not blank** is trimmed already. -/
theorem trim_between {c e : Char} (s : List Char) (hc : isBlank c = false)
    (he : isBlank e = false) : trim (c :: s ++ [e]) = c :: s ++ [e] := by
  rw [trim, List.cons_append, trimStart_cons_of_not_blank _ hc, ← List.cons_append,
    trimEnd_concat_of_not_blank _ he]

/-! ## Trimming twice -/

theorem trimStart_trimStart (s : List Char) : trimStart (trimStart s) = trimStart s := by
  rcases hs : trimStart s with _ | ⟨c, rest⟩
  · rfl
  · have hc : isBlank c = false := head?_trimStart s (by rw [hs, List.head?_cons])
    rw [trimStart_cons_of_not_blank rest hc]

/-- The cut at the end is the cut at the front of the text read backwards. -/
theorem trimEnd_eq_reverse (s : List Char) : trimEnd s = (trimStart s.reverse).reverse := rfl

theorem trimEnd_trimEnd (s : List Char) : trimEnd (trimEnd s) = trimEnd s := by
  rw [trimEnd_eq_reverse, trimEnd_eq_reverse s, List.reverse_reverse, trimStart_trimStart]

/-- The cut at the end leaves the front of a text. -/
theorem trimEnd_prefix (s : List Char) : trimEnd s <+: s := by
  have hsuffix : trimStart s.reverse <:+ s.reverse := List.dropWhile_suffix isBlank
  rw [trimEnd_eq_reverse]
  simpa using List.reverse_prefix.mpr hsuffix

/-- A text without blanks at the front has none there after the cut at the end. -/
theorem trimStart_trimEnd {s : List Char} (h : trimStart s = s) :
    trimStart (trimEnd s) = trimEnd s := by
  rcases hs : trimEnd s with _ | ⟨c, rest⟩
  · rfl
  · -- What is left starts with the first character of the text.
    obtain ⟨tail, htail⟩ := trimEnd_prefix s
    have hhead : (trimStart s).head? = some c := by
      rw [h, ← htail, hs, List.cons_append, List.head?_cons]
    rw [trimStart_cons_of_not_blank rest (head?_trimStart s hhead)]

/-- **Trimming twice** is trimming once. -/
theorem trim_trim (s : List Char) : trim (trim s) = trim s := by
  have hfront : trimStart (trim s) = trim s := trimStart_trimEnd (trimStart_trimStart s)
  calc trim (trim s) = trimEnd (trimStart (trim s)) := rfl
    _ = trimEnd (trim s) := by rw [hfront]
    _ = trim s := trimEnd_trimEnd (trimStart s)

/-- A text whose end is cut already is trimmed to the same. -/
theorem trim_trimEnd (s : List Char) : trim (trimEnd s) = trim s := by
  induction s using List.reverseRecOn with
  | nil => rfl
  | append_singleton s c ih =>
    cases hc : isBlank c with
    | true => rw [trimEnd_concat_of_blank s hc, ih, trim_concat_of_blank s hc]
    | false => rw [trimEnd_concat_of_not_blank s hc]

/-! ## Characters that stay -/

theorem count_trimStart {c : Char} (h : isBlank c = false) (s : List Char) :
    (trimStart s).count c = s.count c := by
  induction s with
  | nil => rfl
  | cons d s ih =>
    cases hd : isBlank d with
    | true =>
      have hne : d ≠ c := by
        rintro rfl
        rw [hd] at h
        cases h
      rw [trimStart_cons_of_blank s hd, ih, List.count_cons_of_ne hne]
    | false => rw [trimStart_cons_of_not_blank s hd]

theorem count_trimEnd {c : Char} (h : isBlank c = false) (s : List Char) :
    (trimEnd s).count c = s.count c := by
  rw [trimEnd_eq_reverse, List.count_reverse, count_trimStart h, List.count_reverse]

theorem count_trim {c : Char} (h : isBlank c = false) (s : List Char) :
    (trim s).count c = s.count c := by
  rw [trim, count_trimEnd h, count_trimStart h]

end SchemaSql.Text
