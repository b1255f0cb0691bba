/-
Reading against the grammar.

The readers for blanks, words and strings take a text from its front, as the rules of the
grammar do, so that each of them can be compared with its rule by an equivalence. What a
reader gives back, the text spelled, and what a text spells, the reader gives back.

For blanks this is not quite so. A reader takes all of them and a rule takes as many as it
likes. The two agree where the blanks have to end, in front of a character that is not a
blank or at the end of the text (`blanks_cons_iff`, `blanks_nil_iff`).

In a string the readers compute with code units and build characters from them. Units that
are no character do not reach that point, so that the number of the character is the number
that was read (`toNat_ofNat_of_not_surrogate`, `toNat_ofPair`).
-/
import Mathlib.Data.List.Basic
import SchemaSql.Proofs.Json.Grammar

set_option autoImplicit false

namespace SchemaSql.Json

open Grammar

variable {s t r : List Char}

/-! ## Blanks and words -/

theorem isSpace_iff {c : Char} : isSpace c = true ↔ c ∈ [' ', '\t', '\n', '\r'] := by
  simp [isSpace, or_assoc]

theorem skipSpace_cons {c : Char} (hc : isSpace c = false) (r : List Char) :
    skipSpace (c :: r) = c :: r := by
  rw [skipSpace, List.dropWhile_cons, hc]
  rfl

theorem blanks_skipSpace (s : List Char) : Blanks s (skipSpace s) := by
  induction s with
  | nil => exact .none
  | cons c s ih =>
    cases hc : isSpace c with
    | true =>
      rw [skipSpace, List.dropWhile_cons, if_pos hc]
      exact .more (isSpace_iff.mp hc) ih
    | false =>
      rw [skipSpace_cons hc]
      exact .none

theorem skipSpace_of_blanks (h : Blanks s r) : skipSpace s = skipSpace r := by
  induction h with
  | none => rfl
  | more hc _ ih =>
    rw [skipSpace, List.dropWhile_cons, if_pos (isSpace_iff.mpr hc)]
    exact ih

theorem skipSpace_skipSpace (s : List Char) : skipSpace (skipSpace s) = skipSpace s :=
  (skipSpace_of_blanks (blanks_skipSpace s)).symm

/-- **Blanks in front of a token** are those that are skipped. -/
theorem blanks_cons_iff {c : Char} (hc : isSpace c = false) :
    Blanks s (c :: r) ↔ skipSpace s = c :: r := by
  constructor
  · intro h
    rw [skipSpace_of_blanks h, skipSpace_cons hc]
  · intro h
    rw [← h]
    exact blanks_skipSpace s

theorem blanks_nil_iff : Blanks s [] ↔ skipSpace s = [] := by
  constructor
  · intro h
    rw [skipSpace_of_blanks h]
    rfl
  · intro h
    rw [← h]
    exact blanks_skipSpace s

theorem afterWord?_eq_some_iff {word : String} :
    afterWord? word s = some r ↔ s = word.toList ++ r := by
  rw [afterWord?, List.isPrefixOf?_eq_some_iff_append_eq, eq_comm]

/-! ## Code units -/

/-- The number of a digit is its place. -/
theorem hexDigit?_eq_some_iff {c : Char} {value : Nat} :
    hexDigit? c = some value ↔ HexDigit value c := by
  -- All digits are among the first characters, and these can be looked through.
  have hread : ∀ n < 103, ∀ value ∈ hexDigit? (Char.ofNat n),
      "0123456789abcdef".toList[value]? = some (Char.ofNat n)
        ∨ "0123456789ABCDEF".toList[value]? = some (Char.ofNat n) := by
    decide +kernel
  have hsmall : ∀ value < 16, "0123456789abcdef".toList[value]?.bind hexDigit? = some value := by
    decide +kernel
  have hlarge : ∀ value < 16, "0123456789ABCDEF".toList[value]?.bind hexDigit? = some value := by
    decide +kernel
  constructor
  · intro h
    have hbound : c.toNat < 103 := by
      have hle : ∀ d : Char, c ≤ d → d.toNat < 103 → c.toNat < 103 :=
        fun d hcd hd => Nat.lt_of_le_of_lt hcd hd
      unfold hexDigit? at h
      split_ifs at h with hdigit hsmall hlarge
      · exact hle '9' hdigit.2 (by decide)
      · exact hle 'f' hsmall.2 (by decide)
      · exact hle 'F' hlarge.2 (by decide)
    have hc := hread c.toNat hbound value
    rw [Char.ofNat_toNat] at hc
    exact hc h
  · rintro (h | h)
    · have hdigit := hsmall value (List.getElem?_eq_some_iff.mp h).1
      rwa [h] at hdigit
    · have hdigit := hlarge value (List.getElem?_eq_some_iff.mp h).1
      rwa [h] at hdigit

theorem readUnit?_eq_some_iff {unit : Nat} :
    readUnit? s = some (unit, r) ↔ CodeUnit unit s r := by
  constructor
  · intro h
    unfold readUnit? at h
    split at h
    · simp only [Option.bind_eq_bind, Option.bind_eq_some_iff, hexDigit?_eq_some_iff,
        Option.pure_def, Option.some.injEq, Prod.mk.injEq] at h
      obtain ⟨i, hi, j, hj, k, hk, l, hl, rfl, rfl⟩ := h
      exact .mk hi hj hk hl
    · cases h
  · rintro ⟨hi, hj, hk, hl⟩
    simp only [readUnit?, hexDigit?_eq_some_iff.mpr hi, hexDigit?_eq_some_iff.mpr hj,
      hexDigit?_eq_some_iff.mpr hk, hexDigit?_eq_some_iff.mpr hl, Option.bind_eq_bind,
      Option.bind_some, Option.pure_def]

theorem lt_of_codeUnit {unit : Nat} (h : CodeUnit unit s r) : unit < 0x10000 := by
  have hdigit : ∀ {value : Nat} {c : Char}, HexDigit value c → value < 16 := by
    rintro value c (h | h)
    · exact (List.getElem?_eq_some_iff.mp h).1
    · exact (List.getElem?_eq_some_iff.mp h).1
  obtain ⟨hi, hj, hk, hl⟩ := h
  have hi := hdigit hi
  have hj := hdigit hj
  have hk := hdigit hk
  have hl := hdigit hl
  omega

/-- The number of a character is not that of a surrogate. -/
theorem not_surrogate (c : Char) :
    isHighSurrogate c.toNat = false ∧ isLowSurrogate c.toNat = false := by
  have hvalid : c.toNat < 0xd800 ∨ 0xdfff < c.toNat ∧ c.toNat < 0x110000 := c.valid
  simp only [isHighSurrogate, isLowSurrogate, Bool.and_eq_false_iff, decide_eq_false_iff_not]
  omega

theorem toNat_ofNat {n : Nat} (h : n.isValidChar) : (Char.ofNat n).toNat = n := by
  rw [Char.ofNat, dif_pos h]
  rfl

theorem toNat_ofNat_of_not_surrogate {unit : Nat} (hunit : unit < 0x10000)
    (hhigh : isHighSurrogate unit = false) (hlow : isLowSurrogate unit = false) :
    (Char.ofNat unit).toNat = unit := by
  simp only [isHighSurrogate, isLowSurrogate, Bool.and_eq_false_iff,
    decide_eq_false_iff_not] at hhigh hlow
  apply toNat_ofNat
  show unit < 0xd800 ∨ 0xdfff < unit ∧ unit < 0x110000
  omega

theorem toNat_ofPair {high low : Nat} (hhigh : 0xd800 ≤ high ∧ high ≤ 0xdbff)
    (hlow : 0xdc00 ≤ low ∧ low ≤ 0xdfff) :
    (ofPair high low).toNat = 0x10000 + (high - 0xd800) * 0x400 + (low - 0xdc00) := by
  apply toNat_ofNat
  show _ < 0xd800 ∨ 0xdfff < _ ∧ _ < 0x110000
  omega

/-! ## Strings -/

theorem shortEscape?_eq_some_iff {e c : Char} : shortEscape? e = some c ↔ (e, c) ∈ signs := by
  constructor
  · intro h
    unfold shortEscape? at h
    split at h <;> cases h <;> decide
  · intro h
    simp only [signs, List.mem_cons, Prod.mk.injEq, List.not_mem_nil, or_false] at h
    rcases h with ⟨rfl, rfl⟩ | ⟨rfl, rfl⟩ | ⟨rfl, rfl⟩ | ⟨rfl, rfl⟩ | ⟨rfl, rfl⟩ | ⟨rfl, rfl⟩
      | ⟨rfl, rfl⟩ | ⟨rfl, rfl⟩ <;> rfl

theorem isHighSurrogate_iff {unit : Nat} :
    isHighSurrogate unit = true ↔ 0xd800 ≤ unit ∧ unit ≤ 0xdbff := by
  simp [isHighSurrogate]

theorem isLowSurrogate_iff {unit : Nat} :
    isLowSurrogate unit = true ↔ 0xdc00 ≤ unit ∧ unit ≤ 0xdfff := by
  simp [isLowSurrogate]

/-- **A character by its number.** -/
theorem readCodePoint?_eq_some_iff {c : Char} :
    readCodePoint? s = some (c, r) ↔ Character c ('\\' :: 'u' :: s) r := by
  constructor
  · intro h
    unfold readCodePoint? at h
    split at h
    · cases h
    · next unit t hunit =>
      have hcode := readUnit?_eq_some_iff.mp hunit
      split_ifs at h with hlow hhigh
      · -- A high surrogate, and the escape that has to follow it.
        split at h
        · next t' =>
          split at h
          · cases h
          · next low t hlowUnit =>
            split_ifs at h with hlowRange
            obtain ⟨rfl, rfl⟩ := Prod.mk.inj (Option.some.inj h)
            have hhighRange := isHighSurrogate_iff.mp hhigh
            have hlowRange := isLowSurrogate_iff.mp hlowRange
            exact .pair hcode (readUnit?_eq_some_iff.mp hlowUnit) hhighRange hlowRange
              (toNat_ofPair hhighRange hlowRange)
        · cases h
      · obtain ⟨rfl, rfl⟩ := Prod.mk.inj (Option.some.inj h)
        have hnumber := toNat_ofNat_of_not_surrogate (lt_of_codeUnit hcode)
          (Bool.eq_false_iff.mpr hhigh) (Bool.eq_false_iff.mpr hlow)
        refine .unit ?_
        rwa [hnumber]
  · intro h
    cases h with
    | plain _ hescape _ => exact absurd rfl hescape
    | sign hsign =>
      have hnone : ∀ p ∈ signs, p.1 ≠ 'u' := by decide
      exact absurd rfl (hnone _ hsign)
    | unit hunit =>
      obtain ⟨hhigh, hlow⟩ := not_surrogate c
      simp [readCodePoint?, readUnit?_eq_some_iff.mpr hunit, hlow, hhigh]
    | pair hhigh hlow hhighRange hlowRange hc =>
      rename_i high low t
      have hnotLow : isLowSurrogate high = false := by
        simp only [isLowSurrogate, Bool.and_eq_false_iff, decide_eq_false_iff_not]
        omega
      have hofPair : ofPair high low = c := by
        rw [ofPair, ← hc]
        exact Char.ofNat_toNat c
      simp [readCodePoint?, readUnit?_eq_some_iff.mpr hhigh, readUnit?_eq_some_iff.mpr hlow,
        hnotLow, isHighSurrogate_iff.mpr hhighRange, isLowSurrogate_iff.mpr hlowRange, hofPair]

/-- **A character in a string.** -/
theorem readChar?_eq_some_iff {c : Char} : readChar? s = some (c, r) ↔ Character c s r := by
  constructor
  · intro h
    unfold readChar? at h
    split at h
    · cases h
    · exact readCodePoint?_eq_some_iff.mp h
    · obtain ⟨c', hc, heq⟩ := Option.map_eq_some_iff.mp h
      obtain ⟨rfl, rfl⟩ := Prod.mk.inj heq
      exact .sign (shortEscape?_eq_some_iff.mp hc)
    · split_ifs at h with hspecial
      obtain ⟨rfl, rfl⟩ := Prod.mk.inj (Option.some.inj h)
      simp only [not_or, Nat.not_lt] at hspecial
      exact .plain hspecial.1 hspecial.2.1 hspecial.2.2
  · intro h
    cases h with
    | plain hquote hescape hcontrol =>
      have hspecial : ¬(c = '"' ∨ c = '\\' ∨ c.toNat < 0x20) := by
        simp only [hquote, hescape, false_or]
        omega
      unfold readChar?
      split
      · next heq => cases heq
      · next heq => exact absurd (List.cons.inj heq).1 hescape
      · next heq => exact absurd (List.cons.inj heq).1 hescape
      · next heq =>
        obtain ⟨rfl, rfl⟩ := List.cons.inj heq
        rw [if_neg hspecial]
    | sign hsign =>
      rename_i e
      have hshort := shortEscape?_eq_some_iff.mpr hsign
      have hu : e ≠ 'u' := by
        rintro rfl
        cases hshort
      rw [readChar?, hshort]
      · rfl
      · exact hu
    | unit hunit => exact readCodePoint?_eq_some_iff.mpr (.unit hunit)
    | pair hhigh hlow hhighRange hlowRange hc =>
      exact readCodePoint?_eq_some_iff.mpr (.pair hhigh hlow hhighRange hlowRange hc)

/-- **A string.** -/
theorem readString?_eq_some_iff {text : List Char} :
    readString? s = some (text, r) ↔ Text text s r := by
  constructor
  · intro h
    fun_induction readString? s generalizing text r with
    | case1 rest =>
      obtain ⟨rfl, rfl⟩ := Prod.mk.inj (Option.some.inj h)
      exact .close
    | case2 s hquote hnone => cases h
    | case3 s hquote c rest hc ih =>
      obtain ⟨found, hfound, heq⟩ := Option.map_eq_some_iff.mp h
      obtain ⟨rfl, rfl⟩ := Prod.mk.inj heq
      exact .more (readChar?_eq_some_iff.mp hc) (ih hfound)
  · intro h
    induction h with
    | close => rw [readString?]
    | more hc _ ih =>
      rename_i c text s t r _
      have hread := readChar?_eq_some_iff.mpr hc
      have hquote : ∀ rest, s ≠ '"' :: rest := by
        rintro rest rfl
        cases hread
      unfold readString?
      split
      · next rest => exact absurd rfl (hquote rest)
      · split
        · next hnone =>
          rw [hread] at hnone
          cases hnone
        · next heq =>
          rw [hread] at heq
          obtain ⟨rfl, rfl⟩ := Prod.mk.inj (Option.some.inj heq)
          rw [ih]
          rfl

end SchemaSql.Json
