/-
Who has written what in a statement.

A statement is put together from texts of two kinds. Keywords, type names, separators and
numbers are written by this library. Names, expressions and the types and actions that a
caller spells are the caller's, and a string default is the caller's text in quotes. A
`Fragment` is a text with its kind, and a list of fragments can be looked at in two ways:
`Fragment.join` is the statement itself, and `Fragment.skeleton` is what remains of it when
each text of a caller is covered by a question mark. A phrase that is found in the
skeleton was written by this library, whatever callers write.

How often a phrase stands in a text is a sum over the places where it could start
(`occurrences`), and two facts settle it for every text that is written here. A character
of the phrase that a text does not have rules the phrase out (`occurrences_eq_zero`). The
same holds in front of the phrase. If it stood at an earlier place too, that character
would have to come earlier as well (`occurrences_append_phrase`). A longer phrase may leave no
such character, but it is still one word. A character that it lacks, a blank above all,
parts the text into two that can be searched on their own (`occurrences_append_cons`).
-/
set_option autoImplicit false

namespace SchemaSql

/-! ## Fragments -/

/-- A part of a statement, with who has written it. -/
inductive Fragment where
  | fixed (text : String)
  | given (text : String)
  deriving DecidableEq, Repr

namespace Fragment

def text : Fragment → String
  | .fixed text => text
  | .given text => text

@[simp] theorem text_fixed (s : String) : (fixed s).text = s := rfl

@[simp] theorem text_given (s : String) : (given s).text = s := rfl

/-- What is seen of a fragment when the caller's texts are covered. -/
def visible : Fragment → List Char
  | .fixed text => text.toList
  | .given _ => ['?']

/-- **The statement** that fragments make up. -/
def join (fragments : List Fragment) : String := String.join (fragments.map text)

/-- **The skeleton** of a statement. The caller's texts are covered. -/
def skeleton (fragments : List Fragment) : List Char := fragments.flatMap visible

@[simp] theorem join_nil : join [] = "" := rfl

theorem join_cons (f : Fragment) (fragments : List Fragment) :
    join (f :: fragments) = f.text ++ join fragments := by
  rw [join, List.map_cons, String.join_cons, join]

theorem join_append (fragments more : List Fragment) :
    join (fragments ++ more) = join fragments ++ join more := by
  rw [join, List.map_append, String.join_append, join, join]

@[simp] theorem skeleton_nil : skeleton [] = [] := rfl

theorem skeleton_cons (f : Fragment) (fragments : List Fragment) :
    skeleton (f :: fragments) = f.visible ++ skeleton fragments := List.flatMap_cons

theorem skeleton_append (fragments more : List Fragment) :
    skeleton (fragments ++ more) = skeleton fragments ++ skeleton more := List.flatMap_append

end Fragment

/-! ## Phrases -/

/-- **How often a phrase stands in a text**, counted by the places where it starts. -/
def occurrences (phrase : List Char) : List Char → Nat
  | [] => 0
  | c :: rest => (if phrase <+: c :: rest then 1 else 0) + occurrences phrase rest

/-- A text that lacks a character of the phrase lacks the phrase. -/
theorem occurrences_eq_zero {phrase s : List Char} {x : Char} (hx : x ∈ phrase) (hs : x ∉ s) :
    occurrences phrase s = 0 := by
  induction s with
  | nil => rfl
  | cons c rest ih =>
    have hfirst : ¬phrase <+: c :: rest := fun hstart => hs (hstart.subset hx)
    rw [occurrences, if_neg hfirst, ih fun hrest => hs (List.mem_cons_of_mem c hrest)]

/-- **In front of a phrase** it does not start if one of its characters is missing there. -/
theorem occurrences_append_phrase {phrase s : List Char} {x : Char} (hx : x ∈ phrase)
    (hs : x ∉ s) (rest : List Char) :
    occurrences phrase (s ++ (phrase ++ rest)) = occurrences phrase (phrase ++ rest) := by
  induction s with
  | nil => rfl
  | cons c s ih =>
    have hfirst : ¬phrase <+: c :: (s ++ (phrase ++ rest)) := by
      rintro ⟨tail, htail⟩
      -- Read from here, the character stands at its place in the phrase. But nothing of
      -- `c :: s` is that character, so it stands behind it, at its place in the other phrase.
      have hplace : (phrase ++ tail).idxOf x = (c :: s ++ (phrase ++ rest)).idxOf x := by
        rw [htail, List.cons_append]
      rw [List.idxOf_append, if_pos hx, List.idxOf_append, if_neg hs, List.idxOf_append, if_pos hx,
        List.length_cons] at hplace
      omega
    rw [List.cons_append, occurrences, if_neg hfirst, Nat.zero_add]
    exact ih fun hmem => hs (List.mem_cons_of_mem c hmem)

/-- A phrase stands once in a text that starts with it, if its first character does not come
again. -/
theorem occurrences_phrase_append {phrase rest : List Char} {p : Char}
    (hfirst : phrase.head? = some p) (hp : p ∉ phrase.tail ++ rest) :
    occurrences phrase (phrase ++ rest) = 1 := by
  obtain ⟨tail, rfl⟩ := List.head?_eq_some_iff.mp hfirst
  have hstart : p :: tail <+: p :: (tail ++ rest) := ⟨rest, rfl⟩
  have hrest : p ∉ tail ++ rest := hp
  rw [List.cons_append, occurrences, if_pos hstart, occurrences_eq_zero List.mem_cons_self hrest]

theorem occurrences_pos {phrase : List Char} (hphrase : phrase ≠ []) (s rest : List Char) :
    0 < occurrences phrase (s ++ (phrase ++ rest)) := by
  induction s with
  | nil =>
    obtain ⟨p, phrase, rfl⟩ := List.exists_cons_of_ne_nil hphrase
    have hstart : p :: phrase <+: p :: (phrase ++ rest) := List.prefix_append (p :: phrase) rest
    rw [List.nil_append, List.cons_append, occurrences, if_pos hstart]
    exact Nat.lt_add_right _ Nat.one_pos
  | cons c s ih =>
    rw [List.cons_append, occurrences]
    exact Nat.lt_add_left _ ih

/-- A single character is a phrase that is found wherever it is. -/
theorem occurrences_singleton_iff {x : Char} {s : List Char} :
    occurrences [x] s = 0 ↔ x ∉ s := by
  refine ⟨fun h hmem => ?_, occurrences_eq_zero (List.mem_singleton_self x)⟩
  obtain ⟨front, rest, rfl⟩ := List.append_of_mem hmem
  exact absurd h (Nat.ne_of_gt (occurrences_pos (List.cons_ne_nil x []) front rest))

/-! ## Breaks -/

theorem prefix_append_cons_iff {phrase s : List Char} {x : Char} (hx : x ∉ phrase)
    (rest : List Char) : phrase <+: s ++ x :: rest ↔ phrase <+: s := by
  constructor
  · intro hstart
    rcases List.prefix_or_prefix_of_prefix hstart (List.prefix_append s (x :: rest)) with h | h
    · exact h
    · -- The phrase would go on behind `s`, and there it would have to go on with `x`.
      obtain ⟨tail, rfl⟩ := h
      rw [List.prefix_append_right_inj] at hstart
      rcases tail with _ | ⟨y, tail⟩
      · exact ⟨[], by rw [List.append_nil, List.append_nil]⟩
      · rw [List.cons_prefix_cons] at hstart
        exact absurd (List.mem_append_right s (hstart.1 ▸ List.mem_cons_self)) hx
  · intro hstart
    exact hstart.trans (List.prefix_append s (x :: rest))

/-- **A break** parts a text: no place of the phrase reaches over a character that it lacks. -/
theorem occurrences_append_cons {phrase s : List Char} {x : Char} (hphrase : phrase ≠ [])
    (hx : x ∉ phrase) (rest : List Char) :
    occurrences phrase (s ++ x :: rest) = occurrences phrase s + occurrences phrase rest := by
  induction s with
  | nil =>
    have hfirst : ¬phrase <+: x :: rest := by
      intro hstart
      have hnil : phrase <+: [] := (prefix_append_cons_iff (s := []) hx rest).mp hstart
      exact hphrase (List.prefix_nil.mp hnil)
    have hnone : occurrences phrase [] = 0 := rfl
    rw [List.nil_append, hnone, occurrences, if_neg hfirst]
  | cons c s ih =>
    have hsame : phrase <+: c :: (s ++ x :: rest) ↔ phrase <+: c :: s :=
      prefix_append_cons_iff (s := c :: s) hx rest
    rw [List.cons_append, occurrences, ih, occurrences, Nat.add_assoc]
    simp only [hsame]

/-- Whether a text has a break in front, so that no place of the phrase reaches into it. -/
def startsApart (phrase s : List Char) : Bool := s.head?.all fun c => !phrase.contains c

theorem occurrences_append {phrase t : List Char} (hphrase : phrase ≠ [])
    (ht : startsApart phrase t = true) (s : List Char) :
    occurrences phrase (s ++ t) = occurrences phrase s + occurrences phrase t := by
  rcases t with _ | ⟨x, rest⟩
  · rw [List.append_nil, occurrences, Nat.add_zero]
  · have hx : x ∉ phrase := by simpa [startsApart] using ht
    have halone := occurrences_append_cons (s := []) hphrase hx rest
    rw [List.nil_append, occurrences, Nat.zero_add] at halone
    rw [occurrences_append_cons hphrase hx, halone]

/-- **A clear text** can stand behind any other and adds no place of the phrase. -/
def IsClear (phrase s : List Char) : Prop :=
  occurrences phrase s = 0 ∧ startsApart phrase s = true

instance (phrase s : List Char) : Decidable (IsClear phrase s) :=
  inferInstanceAs (Decidable (occurrences phrase s = 0 ∧ startsApart phrase s = true))

theorem IsClear.occurrences_append {phrase t : List Char} (ht : IsClear phrase t)
    (hphrase : phrase ≠ []) (s : List Char) :
    occurrences phrase (s ++ t) = occurrences phrase s := by
  rw [SchemaSql.occurrences_append hphrase ht.2, ht.1, Nat.add_zero]

theorem IsClear.append {phrase s t : List Char} (hs : IsClear phrase s) (ht : IsClear phrase t)
    (hphrase : phrase ≠ []) : IsClear phrase (s ++ t) := by
  refine ⟨(ht.occurrences_append hphrase s).trans hs.1, ?_⟩
  rcases s with _ | ⟨x, s⟩
  · exact ht.2
  · exact hs.2

theorem isClear_of_not_mem {phrase s : List Char} (hphrase : phrase ≠ [])
    (h : ∀ x ∈ s, x ∉ phrase) : IsClear phrase s := by
  constructor
  · obtain ⟨p, rest, rfl⟩ := List.exists_cons_of_ne_nil hphrase
    exact occurrences_eq_zero List.mem_cons_self fun hp => h p hp List.mem_cons_self
  · rcases s with _ | ⟨x, s⟩
    · rfl
    · simpa [startsApart] using h x List.mem_cons_self

/-! Fragments are clear together if each of them is. -/

section Clear

variable {phrase : List Char} {fragments more : List Fragment}

theorem isClear_skeleton_cons {f : Fragment} (hphrase : phrase ≠ []) (hf : IsClear phrase f.visible)
    (h : IsClear phrase (Fragment.skeleton fragments)) :
    IsClear phrase (Fragment.skeleton (f :: fragments)) := by
  rw [Fragment.skeleton_cons]
  exact hf.append h hphrase

theorem isClear_skeleton_append (hphrase : phrase ≠ [])
    (h : IsClear phrase (Fragment.skeleton fragments))
    (hmore : IsClear phrase (Fragment.skeleton more)) :
    IsClear phrase (Fragment.skeleton (fragments ++ more)) := by
  rw [Fragment.skeleton_append]
  exact h.append hmore hphrase

/-- What stands in front of clear fragments is all that counts. -/
theorem occurrences_skeleton_cons {f : Fragment} (hphrase : phrase ≠ [])
    (h : IsClear phrase (Fragment.skeleton fragments)) :
    occurrences phrase (Fragment.skeleton (f :: fragments)) = occurrences phrase f.visible := by
  rw [Fragment.skeleton_cons]
  exact h.occurrences_append hphrase f.visible

end Clear

end SchemaSql
