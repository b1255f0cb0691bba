/-
The form of numerals, and their characters.

Lengths, precisions and default values are written as decimal numbers. What is written for an
integer is its digits, with a minus sign if it is negative, and they stand for it
(`isNumeralOf_intText`). What is written for a floating point value is its sign and its shortest
decimal, as long as the value has digits (`isFloatNumeralOf_floatText_iff`). The exponent is
never written, so the three cases are where the point goes: behind the digits, where it is left
out, among them, or before them (`isDecimalOf_positional`). The values without digits are
written as words.

Whoever looks for something else in a statement, be it a comma or a keyword, wants to know that
it is not found in a number. So there is one class of characters (`IsNumeralChar`), and every
text of a number consists of them: the digits, the sign and the point, and the letters of the
three words.
-/
import SchemaSql.DefaultValue

set_option autoImplicit false

namespace SchemaSql.Number

/-- **A character of a numeral.** -/
def IsNumeralChar (c : Char) : Prop :=
  c.isDigit = true ∨ c ∈ ['-', '.', 'N', 'a', 'i', 'n', 'f']

instance (c : Char) : Decidable (IsNumeralChar c) :=
  inferInstanceAs (Decidable (c.isDigit = true ∨ c ∈ ['-', '.', 'N', 'a', 'i', 'n', 'f']))

/-! ## The form of numerals -/

/-- Digits, at least one. -/
def IsDigits (s : List Char) : Prop := s ≠ [] ∧ ∀ c ∈ s, c.isDigit = true

/-- **A numeral of a decimal**: digits, or digits on both sides of a point, with the value of the
decimal. Natural numbers are compared, so each power of ten stands on the side where its exponent
is not negative. -/
def IsDecimalOf (x : Decimal) (s : List Char) : Prop :=
  ∃ whole fraction, IsDigits whole
    ∧ (fraction = [] ∧ s = whole ∨ IsDigits fraction ∧ s = whole ++ '.' :: fraction)
    ∧ Nat.ofDigitChars 10 (whole ++ fraction) 0 * Nat.pow 10 (-x.exponent).toNat
        = x.digits * Nat.pow 10 x.exponent.toNat * Nat.pow 10 fraction.length

/-- **A numeral of a floating point value**: a minus sign, if it has one, and a numeral of the
shortest decimal that is read back as its magnitude. -/
def IsFloatNumeralOf (x : Binary64) (s : List Char) : Prop :=
  ∃ m, IsDecimalOf (Shortest.digits .upward x.magnitude) m
    ∧ s = (if x.isNegative then ['-'] else []) ++ m

/-- **A numeral of an integer**: digits, perhaps with a minus sign, that stand for it. -/
def IsNumeralOf (i : Int) (s : List Char) : Prop :=
  ∃ digits, IsDigits digits
    ∧ (s = digits ∧ i = Nat.ofDigitChars 10 digits 0
      ∨ s = '-' :: digits ∧ i = -(Nat.ofDigitChars 10 digits 0 : Int))

theorem isDigits_decimalDigits (n : Nat) : IsDigits (decimalDigits n) :=
  ⟨Nat.toDigits_ne_nil, fun _ hc => Nat.isDigit_of_mem_toDigits (by decide) (by decide) hc⟩

theorem isDigit_of_mem_zeros {n : Nat} {c : Char} (h : c ∈ List.replicate n '0') :
    c.isDigit = true := by
  rw [List.eq_of_mem_replicate h]
  decide

theorem isDigits_append {s t : List Char} (h : s ≠ [] ∨ t ≠ [])
    (hs : ∀ c ∈ s, c.isDigit = true) (ht : ∀ c ∈ t, c.isDigit = true) : IsDigits (s ++ t) := by
  refine ⟨fun hnil => ?_, fun c hc => ?_⟩
  · rw [List.append_eq_nil_iff] at hnil
    exact h.elim (· hnil.1) (· hnil.2)
  · exact (List.mem_append.mp hc).elim (hs c) (ht c)

theorem ofDigitChars_decimalDigits (n : Nat) : Nat.ofDigitChars 10 (decimalDigits n) 0 = n :=
  Nat.ofDigitChars_ten_toDigits

theorem isNumeralOf_intText (i : Int) : IsNumeralOf i (intText i).toList := by
  rcases i with n | n
  · refine ⟨decimalDigits n, isDigits_decimalDigits n, .inl ⟨?_, ?_⟩⟩
    · rw [intText, natText, String.toList_ofList]
    · rw [ofDigitChars_decimalDigits, Int.ofNat_eq_natCast]
  · refine ⟨decimalDigits (n + 1), isDigits_decimalDigits (n + 1), .inr ⟨?_, ?_⟩⟩
    · rw [intText, String.toList_ofList]
    · rw [ofDigitChars_decimalDigits, Int.negSucc_eq, Int.natCast_succ]

/-- A numeral has no letters. -/
theorem isDigit_or_of_mem_isFloatNumeralOf {x : Binary64} {s : List Char}
    (h : IsFloatNumeralOf x s) {c : Char} (hc : c ∈ s) : c.isDigit = true ∨ c = '-' ∨ c = '.' := by
  obtain ⟨m, ⟨whole, fraction, hwhole, hm, -⟩, rfl⟩ := h
  rcases List.mem_append.mp hc with hc | hc
  · cases hnegative : x.isNegative with
    | false =>
      rw [hnegative] at hc
      cases hc
    | true =>
      rw [hnegative] at hc
      exact .inr (.inl (List.mem_singleton.mp hc))
  · rcases hm with ⟨-, rfl⟩ | ⟨hfraction, rfl⟩
    · exact .inl (hwhole.2 c hc)
    · rw [List.mem_append, List.mem_cons] at hc
      rcases hc with hc | rfl | hc
      · exact .inl (hwhole.2 c hc)
      · exact .inr (.inr rfl)
      · exact .inl (hfraction.2 c hc)

/-! ## Whole numbers -/

theorem isNumeralChar_of_mem_decimalDigits {n : Nat} {c : Char} (h : c ∈ decimalDigits n) :
    IsNumeralChar c :=
  .inl (Nat.isDigit_of_mem_toDigits (by decide) (by decide) h)

theorem isNumeralChar_of_mem_natText {n : Nat} {c : Char} (h : c ∈ (natText n).toList) :
    IsNumeralChar c := by
  rw [natText, String.toList_ofList] at h
  exact isNumeralChar_of_mem_decimalDigits h

theorem isNumeralChar_of_mem_intText {i : Int} {c : Char} (h : c ∈ (intText i).toList) :
    IsNumeralChar c := by
  rcases i with n | n
  · exact isNumeralChar_of_mem_natText h
  · rw [intText, String.toList_ofList] at h
    rcases List.mem_cons.mp h with rfl | h
    · decide
    · exact isNumeralChar_of_mem_decimalDigits h

/-! ## Floating point numbers -/

/-- **The positional form** of a decimal is a numeral of it. -/
theorem isDecimalOf_positional (x : Decimal) :
    IsDecimalOf x (DefaultValue.floatLayout.positional x) := by
  obtain ⟨hne, hdigits⟩ := isDigits_decimalDigits x.digits
  have hvalue := ofDigitChars_decimalDigits x.digits
  simp only [Layout.positional]
  by_cases hwhole : 0 ≤ x.exponent
  · -- A whole number has no point, and its zeros are places.
    have hplaces : (-x.exponent).toNat = 0 := by omega
    rw [if_pos hwhole]
    refine ⟨decimalDigits x.digits ++ List.replicate x.exponent.toNat '0', [],
      isDigits_append (.inl hne) hdigits fun _ => isDigit_of_mem_zeros,
      .inl ⟨rfl, List.append_nil _⟩, ?_⟩
    rw [List.append_nil, Nat.ofDigitChars_append, hvalue, Nat.ofDigitChars_replicate_zero, hplaces]
    simp [Nat.mul_comm]
  · rw [if_neg hwhole]
    have hzero : x.exponent.toNat = 0 := by omega
    by_cases hplaces : (-x.exponent).toNat < (decimalDigits x.digits).length
    · -- The point stands among the digits.
      rw [if_pos hplaces]
      refine ⟨_, _, ⟨?_, fun c hc => hdigits c (List.mem_of_mem_take hc)⟩,
        .inr ⟨⟨?_, fun c hc => hdigits c (List.mem_of_mem_drop hc)⟩, rfl⟩, ?_⟩
      · rw [Ne, List.take_eq_nil_iff]
        exact not_or.mpr ⟨by omega, hne⟩
      · rw [Ne, List.drop_eq_nil_iff]
        omega
      · have hlength : (decimalDigits x.digits).length
            - ((decimalDigits x.digits).length - (-x.exponent).toNat) = (-x.exponent).toNat := by
          omega
        rw [List.take_append_drop, hvalue, List.length_drop, hlength, hzero]
        simp
    · -- The point stands before them, behind a zero and with zeros for the places in between.
      have hlength : (-x.exponent).toNat - (decimalDigits x.digits).length
          + (decimalDigits x.digits).length = (-x.exponent).toNat := by omega
      rw [if_neg hplaces]
      refine ⟨['0'], _, ⟨nofun, List.forall_mem_singleton.mpr rfl⟩,
        .inr ⟨isDigits_append (.inr hne) (fun _ => isDigit_of_mem_zeros) hdigits, rfl⟩, ?_⟩
      rw [Nat.ofDigitChars_append, Nat.ofDigitChars_append, List.length_append,
        List.length_replicate, hlength, hzero]
      simp [Nat.ofDigitChars_replicate_zero, Nat.ofDigitChars_cons, hvalue]

/-- Whether a number has digits. -/
def Binary64.isFinite (x : Binary64) : Bool :=
  match x.value with
  | .finite _ _ _ => true
  | .nan | .infinite _ => false

theorem isNegative_of_value {x : Binary64} {negative : Bool} {significand : Nat} {exponent : Int}
    (h : x.value = .finite negative significand exponent) : x.isNegative = negative := by
  rw [Binary64.value] at h
  split at h
  · cases h
  · split at h
    · cases h
    · cases h
      rfl

theorem isFloatNumeralOf_floatText {x : Binary64} (h : x.isFinite = true) :
    IsFloatNumeralOf x (DefaultValue.floatLayout.text x).toList := by
  rw [Binary64.isFinite] at h
  rw [Layout.text]
  rcases hvalue : x.value with _ | negative | ⟨negative, _, _⟩
  · rw [hvalue] at h
    cases h
  · rw [hvalue] at h
    cases h
  · -- No exponent is ever written, so that the magnitude is in positional form.
    refine ⟨DefaultValue.floatLayout.magnitudeText x.magnitude, isDecimalOf_positional _, ?_⟩
    rw [isNegative_of_value hvalue, String.toList_ofList]

/-- The texts of the values that have no digits. -/
theorem floatText_of_not_isFinite {x : Binary64} (h : x.isFinite = false) :
    DefaultValue.floatLayout.text x ∈ ["NaN", "inf", "-inf"] := by
  rw [Binary64.isFinite] at h
  rw [Layout.text]
  rcases hvalue : x.value with _ | negative | ⟨negative, _, _⟩
  · show String.ofList DefaultValue.floatLayout.nan ∈ ["NaN", "inf", "-inf"]
    decide
  · show String.ofList ((if negative then ['-'] else []) ++ DefaultValue.floatLayout.infinity)
      ∈ ["NaN", "inf", "-inf"]
    cases negative <;> decide
  · rw [hvalue] at h
    cases h

/-- **A floating point value is written as a numeral exactly if it has digits.** -/
theorem isFloatNumeralOf_floatText_iff (x : Binary64) :
    IsFloatNumeralOf x (DefaultValue.floatLayout.text x).toList ↔ x.isFinite = true := by
  cases hfinite : x.isFinite with
  | true => exact iff_of_true (isFloatNumeralOf_floatText hfinite) rfl
  | false =>
    refine iff_of_false (fun hnumeral => ?_) Bool.false_ne_true
    -- Each of the three texts has a letter.
    have hletter : ∀ text ∈ ["NaN", "inf", "-inf"],
        (text.toList.all fun c => c.isDigit || (c == '-' || c == '.')) = false := by decide
    have hall : ((DefaultValue.floatLayout.text x).toList.all fun c =>
        c.isDigit || (c == '-' || c == '.')) = true :=
      List.all_eq_true.mpr fun c hc => by
        simpa using isDigit_or_of_mem_isFloatNumeralOf hnumeral hc
    rw [hletter _ (floatText_of_not_isFinite hfinite)] at hall
    cases hall

/-- A floating point default is a numeral, also where it is no number. -/
theorem isNumeralChar_of_mem_floatText {x : Binary64} {c : Char}
    (h : c ∈ (DefaultValue.floatLayout.text x).toList) : IsNumeralChar c := by
  cases hfinite : x.isFinite with
  | true =>
    rcases isDigit_or_of_mem_isFloatNumeralOf (isFloatNumeralOf_floatText hfinite) h with
      hdigit | rfl | rfl
    · exact .inl hdigit
    · decide
    · decide
  | false =>
    have htexts : ∀ text ∈ ["NaN", "inf", "-inf"],
        (text.toList.all fun c => decide (IsNumeralChar c)) = true := by decide
    have hall := htexts _ (floatText_of_not_isFinite hfinite)
    exact of_decide_eq_true (List.all_eq_true.mp hall c h)

end SchemaSql.Number
