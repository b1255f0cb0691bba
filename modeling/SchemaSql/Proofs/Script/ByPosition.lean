/-
What is read from a script, said by positions.

`Script.pieces` reads a script from front to back and takes an escape as a whole as soon
as it meets one. A reader of the format thinks of it in another way: a semicolon is a
terminator if no backslash stands right before it, whatever stands further in front, and
a backslash goes if a semicolon stands right behind it. Both are questions about one
character and its neighbours. Here they are asked of every character of the script
(`places`), and nothing is consumed.

The two readings agree (`map_unescape_cutAt`). They could differ only where a semicolon
that belongs to an escape serves as the neighbour of something else, and it never does:
what follows an escape sees a semicolon before it, which is no backslash. The induction
follows the scan and holds for every character before the text but a backslash. A
backslash that is no escape does stand before the rest of the text, but then that rest
starts with no semicolon, and nothing but a semicolon looks back (`cutAt_of_head?_ne`).

The last part counts the losses. Terminators and the backslashes of escapes are left
out, each other character is in a piece, and the order is that of the script
(`flatten_pieces`).
-/
import SchemaSql.Proofs.Script.Pieces

set_option autoImplicit false

namespace SchemaSql.Script

open SchemaSql.Text

/-! ## Characters and their neighbours -/

/-- A character of a script, with the one right before it and the one right behind it. -/
structure Place where
  before : Option Char
  char : Char
  after : Option Char
  deriving DecidableEq, Repr

/-- A semicolon is a terminator unless a backslash stands right before it. -/
def Place.isTerminator (p : Place) : Bool := p.char == ';' && p.before != some '\\'

/-- A backslash is one of an escape if a semicolon stands right behind it. -/
def Place.isEscape (p : Place) : Bool := p.char == '\\' && p.after == some ';'

/-- Reading keeps every other character. -/
def Place.isKept (p : Place) : Bool := !p.isTerminator && !p.isEscape

/-- The characters of a text that follows `before`. -/
def places (before : Option Char) : List Char → List Place
  | [] => []
  | c :: rest => ⟨before, c, rest.head?⟩ :: places (some c) rest

/-- The text that follows `before`, cut at its terminators. -/
def cutAt (before : Option Char) (s : List Char) : List (List Char) :=
  ((places before s).splitOnP (·.isTerminator)).map (·.map (·.char))

/-- The characters of the text that follows `before` which reading keeps. -/
def keptAfter (before : Option Char) (s : List Char) : List Char :=
  ((places before s).filter (·.isKept)).map (·.char)

/-- **The cut by position.** The texts between the terminators of a script. -/
def positionalCut (s : List Char) : List (List Char) := cutAt none s

/-- **What is kept** of a script. -/
def kept (s : List Char) : List Char := keptAfter none s

/-- Replaces each `\;` by a semicolon. -/
def unescape : List Char → List Char
  | [] => []
  | '\\' :: ';' :: rest => ';' :: unescape rest
  | c :: rest => c :: unescape rest

theorem unescape_escape (rest : List Char) :
    unescape ('\\' :: ';' :: rest) = ';' :: unescape rest := by
  rw [unescape]

theorem unescape_char {c : Char} {rest : List Char} (h : c = '\\' → rest.head? ≠ some ';') :
    unescape (c :: rest) = c :: unescape rest := by
  rw [unescape]
  intro tail hc hrest
  subst hc hrest
  exact h rfl rfl

/-! ## The cut, one character at a time -/

@[simp] theorem cutAt_nil (before : Option Char) : cutAt before [] = [[]] := rfl

theorem cutAt_ne_nil (before : Option Char) (s : List Char) : cutAt before s ≠ [] := by
  rw [cutAt, ne_eq, List.map_eq_nil_iff]
  exact List.splitOnP_ne_nil _ _

theorem cutAt_terminator {before : Option Char} (h : before ≠ some '\\') (rest : List Char) :
    cutAt before (';' :: rest) = [] :: cutAt (some ';') rest := by
  have hend : Place.isTerminator ⟨before, ';', rest.head?⟩ = true := by
    simpa [Place.isTerminator] using h
  rw [cutAt, places, List.splitOnP_cons_eq_if_modifyHead, if_pos hend, List.map_cons, ← cutAt]
  rfl

theorem cutAt_char {before : Option Char} {c : Char} (h : c = ';' → before = some '\\')
    (rest : List Char) : cutAt before (c :: rest) = consFirst c (cutAt (some c) rest) := by
  have hend : ¬Place.isTerminator ⟨before, c, rest.head?⟩ = true := by
    simpa [Place.isTerminator] using h
  rw [cutAt, places, List.splitOnP_cons_eq_if_modifyHead, if_neg hend, cutAt]
  -- There always is a piece for the character to stand in.
  obtain ⟨first, more, hsplit⟩ := List.exists_cons_of_ne_nil
    (List.splitOnP_ne_nil Place.isTerminator (places (some c) rest))
  rw [hsplit]
  rfl

/-- Where no semicolon is in front, it does not matter what stands before. -/
theorem cutAt_of_head?_ne {s : List Char} (h : s.head? ≠ some ';') (b b' : Option Char) :
    cutAt b s = cutAt b' s := by
  rcases s with _ | ⟨c, rest⟩
  · rfl
  · have hc : c ≠ ';' := fun hc => h (by rw [hc, List.head?_cons])
    rw [cutAt_char (fun h' => absurd h' hc), cutAt_char (fun h' => absurd h' hc)]

/-- The first piece of a text starts with a semicolon only if the text does. -/
theorem head?_first_cutAt {b : Option Char} {s first : List Char} {more : List (List Char)}
    (h : s.head? ≠ some ';') (hcut : cutAt b s = first :: more) : first.head? ≠ some ';' := by
  rcases s with _ | ⟨c, rest⟩
  · obtain ⟨rfl, -⟩ := List.cons.inj hcut
    exact h
  · have hc : c ≠ ';' := fun hc => h (by rw [hc, List.head?_cons])
    obtain ⟨p, ps, hrest⟩ := List.exists_cons_of_ne_nil (cutAt_ne_nil (some c) rest)
    rw [cutAt_char (fun h' => absurd h' hc), hrest, consFirst] at hcut
    obtain ⟨rfl, -⟩ := List.cons.inj hcut
    rwa [List.head?_cons] at h ⊢

/-! ## Both readings agree -/

theorem head?_ne_of_not_escape {c : Char} {rest : List Char}
    (h : ∀ tail, c = '\\' → rest = ';' :: tail → False) :
    c = '\\' → rest.head? ≠ some ';' := by
  intro hc hhead
  obtain ⟨tail, htail⟩ := List.head?_eq_some_iff.mp hhead
  exact h tail hc htail

/-- A backslash that starts no escape may be forgotten: what is known behind every other character
is known behind it, if it is of a kind for which only a semicolon looks back. -/
theorem eq_behind_char {α : Type} {f : Option Char → List Char → α} {c : Char}
    {rest : List Char} {x : α} (hnext : c = '\\' → rest.head? ≠ some ';')
    (hfree : rest.head? ≠ some ';' → ∀ b b', f b rest = f b' rest)
    (h : ∀ b, b ≠ some '\\' → f b rest = x) : f (some c) rest = x := by
  by_cases hc : c = '\\'
  · rw [hfree (hnext hc) (some c) none]
    exact h none (by decide)
  · exact h (some c) (fun hsome => hc (Option.some.inj hsome))

/-- A character that starts no escape may be put in front of the first piece before or after the
escapes are replaced. -/
theorem map_unescape_consFirst {c : Char} {ps : List (List Char)} (hps : ps ≠ [])
    (h : ∀ first more, ps = first :: more → c = '\\' → first.head? ≠ some ';') :
    (consFirst c ps).map unescape = consFirst c (ps.map unescape) := by
  obtain ⟨first, more, rfl⟩ := List.exists_cons_of_ne_nil hps
  rw [consFirst, List.map_cons, unescape_char (h first more rfl), List.map_cons, consFirst]

/-- **Cutting by position and replacing the escapes** is what the scan does, in any text that does
not follow a backslash. -/
theorem map_unescape_cutAt {before : Option Char} (h : before ≠ some '\\') (s : List Char) :
    (cutAt before s).map unescape = pieces s := by
  fun_induction pieces s generalizing before with
  | case1 => rfl
  | case2 rest ih =>
    -- An escape. Its backslash is no semicolon, and its semicolon has a backslash before it.
    have hrest : (cutAt (some ';') rest).map unescape = pieces rest := ih (by decide)
    obtain ⟨first, more, hcut⟩ := List.exists_cons_of_ne_nil (cutAt_ne_nil (some ';') rest)
    rw [cutAt_char (fun hc => absurd hc (by decide)), cutAt_char (fun _ => rfl), ← hrest, hcut,
      consFirst, consFirst, List.map_cons, unescape_escape, List.map_cons, consFirst]
  | case3 rest ih =>
    rw [cutAt_terminator h, List.map_cons, ih (by decide)]
    rfl
  | case4 c rest hescape hc ih =>
    have hnext : c = '\\' → rest.head? ≠ some ';' := head?_ne_of_not_escape hescape
    -- The induction does not reach behind a backslash, but there nothing looks back.
    have hrest : (cutAt (some c) rest).map unescape = pieces rest := by
      refine eq_behind_char (f := fun b s => (cutAt b s).map unescape) hnext ?_ (fun b hb => ih hb)
      intro hhead b b'
      rw [cutAt_of_head?_ne hhead b b']
    rw [cutAt_char (fun h' => absurd h' hc), ← hrest]
    apply map_unescape_consFirst (cutAt_ne_nil (some c) rest)
    intro first more hcut hback
    exact head?_first_cutAt (hnext hback) hcut

/-! ## What is kept -/

theorem flatten_consFirst (c : Char) (ps : List (List Char)) :
    (consFirst c ps).flatten = c :: ps.flatten := by
  rcases ps with _ | ⟨p, ps⟩
  · rfl
  · rw [consFirst, List.flatten_cons, List.flatten_cons, List.cons_append]

/-- The terminator and the backslash of an escape are left out. -/
theorem keptAfter_left_out {before : Option Char} {c : Char} {rest : List Char}
    (h : c = ';' ∧ before ≠ some '\\' ∨ c = '\\' ∧ rest.head? = some ';') :
    keptAfter before (c :: rest) = keptAfter (some c) rest := by
  have hout : ¬Place.isKept ⟨before, c, rest.head?⟩ = true := by
    rcases h with ⟨rfl, hbefore⟩ | ⟨rfl, hhead⟩
    · simp [Place.isKept, Place.isTerminator, hbefore]
    · simp [Place.isKept, Place.isEscape, hhead]
  rw [keptAfter, places, List.filter_cons_of_neg hout, ← keptAfter]

theorem keptAfter_char {before : Option Char} {c : Char} {rest : List Char}
    (hend : c = ';' → before = some '\\') (hescape : c = '\\' → rest.head? ≠ some ';') :
    keptAfter before (c :: rest) = c :: keptAfter (some c) rest := by
  have hkeep : Place.isKept ⟨before, c, rest.head?⟩ = true := by
    simp only [Place.isKept, Place.isTerminator, Place.isEscape, Bool.and_eq_true,
      Bool.not_eq_true', Bool.and_eq_false_imp, beq_iff_eq, beq_eq_false_iff_ne,
      bne_eq_false_iff_eq]
    exact ⟨hend, hescape⟩
  rw [keptAfter, places, List.filter_cons_of_pos hkeep, List.map_cons, ← keptAfter]

theorem keptAfter_of_head?_ne {s : List Char} (h : s.head? ≠ some ';') (b b' : Option Char) :
    keptAfter b s = keptAfter b' s := by
  rcases s with _ | ⟨c, rest⟩
  · rfl
  · have hc : c ≠ ';' := fun hc => h (by rw [hc, List.head?_cons])
    by_cases hescape : c = '\\' ∧ rest.head? = some ';'
    · rw [keptAfter_left_out (.inr hescape), keptAfter_left_out (.inr hescape)]
    · have hstay : c = '\\' → rest.head? ≠ some ';' := fun h₁ h₂ => hescape ⟨h₁, h₂⟩
      rw [keptAfter_char (fun h' => absurd h' hc) hstay,
        keptAfter_char (fun h' => absurd h' hc) hstay]

/-- **Nothing else is lost.** The pieces, one behind the other, are what is kept. -/
theorem flatten_pieces {before : Option Char} (h : before ≠ some '\\') (s : List Char) :
    (pieces s).flatten = keptAfter before s := by
  fun_induction pieces s generalizing before with
  | case1 => rfl
  | case2 rest ih =>
    have hrest : (pieces rest).flatten = keptAfter (some ';') rest := ih (by decide)
    -- Of the two characters of an escape the second one stays.
    rw [flatten_consFirst, hrest, keptAfter_left_out (.inr ⟨rfl, rfl⟩),
      keptAfter_char (fun _ => rfl) (fun hc => absurd hc (by decide))]
  | case3 rest ih =>
    have hrest : (pieces rest).flatten = keptAfter (some ';') rest := ih (by decide)
    rw [List.flatten_cons, List.nil_append, hrest, keptAfter_left_out (.inl ⟨rfl, h⟩)]
  | case4 c rest hescape hc ih =>
    have hnext : c = '\\' → rest.head? ≠ some ';' := head?_ne_of_not_escape hescape
    have hrest : keptAfter (some c) rest = (pieces rest).flatten :=
      eq_behind_char hnext keptAfter_of_head?_ne (fun b hb => (ih hb).symm)
    rw [flatten_consFirst, ← hrest, keptAfter_char (fun h' => absurd h' hc) hnext]

/-! ## The statements -/

/-- Reading pieces is trimming them, leaving out what is blank and adding the terminators. -/
theorem filterMap_statement? (ps : List (List Char)) :
    ps.filterMap statement?
      = ((ps.map trim).filter (· ≠ [])).map fun body => String.ofList (body ++ [';']) := by
  induction ps with
  | nil => rfl
  | cons p ps ih =>
    by_cases hp : trim p = []
    · have hnone : statement? p = none := by
        rw [Option.eq_none_iff_forall_ne_some]
        intro s hs
        exact (statement?_eq_some_iff.mp hs).1 hp
      rw [List.filterMap_cons_none hnone, ih, List.map_cons,
        List.filter_cons_of_neg (by simpa using hp)]
    · have hsome : statement? p = some (String.ofList (trim p ++ [';'])) :=
        statement?_eq_some_iff.mpr ⟨hp, rfl⟩
      rw [List.filterMap_cons_some hsome, ih, List.map_cons,
        List.filter_cons_of_pos (by simpa using hp), List.map_cons]

/-- **Reading by position.** The script is cut at the semicolons with no backslash right before
them, each `\;` in a text between them is replaced by a semicolon, the texts are trimmed, the empty
ones are dropped, and the others are terminated. Before the trimming, these texts hold all
characters of the script in their order but for the terminators and one backslash right before
each other semicolon. -/
theorem statements_by_position (script : String) :
    statements script
        = ((((positionalCut script.toList).map unescape).map trim).filter (· ≠ [])).map
            (fun body => String.ofList (body ++ [';']))
      ∧ ((positionalCut script.toList).map unescape).flatten = kept script.toList := by
  have hpieces : (positionalCut script.toList).map unescape = pieces script.toList :=
    map_unescape_cutAt (by decide) script.toList
  rw [hpieces]
  exact ⟨filterMap_statement? (pieces script.toList), flatten_pieces (by decide) script.toList⟩

/-- Of a run of backslashes before a semicolon the last one goes, and a semicolon behind an escape
is a terminator. -/
example : positionalCut "a\\\\;b\\;;c\\d".toList = ["a\\\\;b\\;".toList, "c\\d".toList]
    ∧ kept "a\\\\;b\\;;c\\d".toList = "a\\;b;c\\d".toList := by decide +kernel

end SchemaSql.Script
