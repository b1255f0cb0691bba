/-
Blank characters, and cutting them off the ends of a text.

Three places of this library ignore blanks at the ends of a text: a statement
cut out of a script, the name of a dialect, and the check whether caller-written
SQL is terminated. All three mean the Unicode property White_Space and nothing
else, so the property is written out here once as a table of ranges. It is wider
than ASCII (no-break space, the typographic spaces, the line and paragraph
separators) and narrower than what looks empty on a screen: the zero-width
space, the byte order mark and the four ASCII information separators are not in
it.

Everything works on `List Char`. Trimming removes a longest blank run from an end
and nothing behind it: what is left does not start with a blank
(`head?_trimStart`), and an end that is not blank stays
(`trimStart_cons_of_not_blank`, `trimEnd_concat_of_not_blank`).
-/

set_option autoImplicit false

namespace SchemaSql.Text

/-! ## The property -/

/-- **White_Space.** The characters that count as blank, by code point. -/
def isBlank (c : Char) : Bool :=
  let n := c.toNat
  (0x09 ≤ n && n ≤ 0x0d) || n == 0x20 || n == 0x85 || n == 0xa0 || n == 0x1680
    || (0x2000 ≤ n && n ≤ 0x200a) || n == 0x2028 || n == 0x2029 || n == 0x202f
    || n == 0x205f || n == 0x3000

/-! ## Trimming -/

/-- Cuts the blanks off the front. -/
def trimStart (s : List Char) : List Char := s.dropWhile isBlank

/-- Cuts the blanks off the end. -/
def trimEnd (s : List Char) : List Char := (s.reverse.dropWhile isBlank).reverse

/-- **Trimming.** Cuts the blanks off both ends. -/
def trim (s : List Char) : List Char := trimEnd (trimStart s)

@[simp] theorem trimStart_nil : trimStart [] = [] := rfl

@[simp] theorem trimEnd_nil : trimEnd [] = [] := rfl

@[simp] theorem trim_nil : trim [] = [] := rfl

/-- A text that does not start with a blank keeps its front. -/
theorem trimStart_cons_of_not_blank {c : Char} (s : List Char) (h : isBlank c = false) :
    trimStart (c :: s) = c :: s := by
  simp [trimStart, h]

/-- A blank at the front is cut. -/
theorem trimStart_cons_of_blank {c : Char} (s : List Char) (h : isBlank c = true) :
    trimStart (c :: s) = trimStart s := by
  simp [trimStart, h]

/-- A text that does not end with a blank keeps its end. -/
theorem trimEnd_concat_of_not_blank {c : Char} (s : List Char) (h : isBlank c = false) :
    trimEnd (s ++ [c]) = s ++ [c] := by
  simp [trimEnd, h]

/-- A blank at the end is cut. -/
theorem trimEnd_concat_of_blank {c : Char} (s : List Char) (h : isBlank c = true) :
    trimEnd (s ++ [c]) = trimEnd s := by
  simp [trimEnd, h]

/-- After trimming the front, no blank is in front. -/
theorem head?_trimStart (s : List Char) {c : Char} (h : (trimStart s).head? = some c) :
    isBlank c = false := by
  induction s with
  | nil => simp at h
  | cons d s ih =>
    cases hd : isBlank d with
    | true => exact ih (by rwa [trimStart_cons_of_blank s hd] at h)
    | false =>
      rw [trimStart_cons_of_not_blank s hd] at h
      cases h
      exact hd

end SchemaSql.Text
