/-
Binary floating point numbers of 64 bits, as exact values.

A default value or a number in a settings document can be such a number, and the
text written for it depends on its exact value. So a number here is its 64 bits,
and everything is said about the value that the bits stand for: `value` decodes
them into a sign and `significand * 2 ^ exponent` with a natural significand, and
`ofRatio` is the other direction, the number nearest to a quotient of natural
numbers. No machine arithmetic is involved, so each step can be computed and
reasoned about in `Nat`.

Magnitudes, that is the bits without the sign, are ordered as the values they
stand for. Rounding makes use of that: a significand that is rounded up to the
next power of two carries into the exponent field by plain addition, and a
magnitude past the last finite one is infinite.
-/

set_option autoImplicit false

namespace SchemaSql.Number

/-- A binary floating point number of 64 bits: one bit of sign, eleven of exponent, fifty-two of
fraction. -/
structure Binary64 where
  /-- The bits, the sign in front. -/
  bits : UInt64
  deriving DecidableEq, Repr, Inhabited

namespace Binary64

/-! ## The value of a number -/

/-- What the bits stand for. A finite number is `significand * 2 ^ exponent` with the given sign, so
that zero keeps its sign too. -/
inductive Value where
  | nan
  | infinite (negative : Bool)
  | finite (negative : Bool) (significand : Nat) (exponent : Int)
  deriving DecidableEq, Repr

/-- The magnitude of the infinite numbers; the smaller ones are finite. -/
def infinity : Nat := 0x7ff * Nat.pow 2 52

/-- Whether the sign bit is set. -/
def isNegative (x : Binary64) : Bool := Nat.pow 2 63 ≤ x.bits.toNat

/-- The bits without the sign. -/
def magnitude (x : Binary64) : Nat := x.bits.toNat % Nat.pow 2 63

/-- The significand of a finite magnitude: the fraction, with the leading bit that normal numbers
leave out. -/
def significandOf (magnitude : Nat) : Nat :=
  if magnitude < Nat.pow 2 52 then magnitude else Nat.pow 2 52 + magnitude % Nat.pow 2 52

/-- The binary exponent of a finite magnitude. Subnormal numbers share the exponent of the smallest
normal ones. -/
def exponentOf (magnitude : Nat) : Int :=
  if magnitude < Nat.pow 2 52 then -1074 else (magnitude / Nat.pow 2 52 : Nat) - 1075

/-- **Decoding.** -/
def value (x : Binary64) : Value :=
  if infinity < x.magnitude then .nan
  else if x.magnitude = infinity then .infinite x.isNegative
  else .finite x.isNegative (significandOf x.magnitude) (exponentOf x.magnitude)

/-! ## The nearest number -/

/-- The quotient as a natural number, nearest first and the even one of two equally near. A zero
divisor gives zero. -/
def roundHalfEven (num den : Nat) : Nat :=
  let q := num / den
  let r := 2 * (num % den)
  if r < den then q
  else if den < r then q + 1
  else if den = 0 then 0
  else q + q % 2

/-- The exponent `e` with `2 ^ e ≤ num / den < 2 ^ (e + 1)`, for positive arguments. -/
def floorLog2 (num den : Nat) : Int :=
  let e : Int := (num.log2 : Int) - den.log2
  let isBelow : Bool :=
    if 0 ≤ e then num < den * Nat.pow 2 e.toNat else num * Nat.pow 2 (-e).toNat < den
  if isBelow then e - 1 else e

/-- **Rounding.** The magnitude nearest to a quotient of natural numbers, `infinity` if it lies past
the finite ones. -/
def ofRatio (num den : Nat) : Nat :=
  if num = 0 then 0
  else
    let exponent : Int := max (floorLog2 num den - 52) (-1074)
    let significand :=
      if 0 ≤ exponent then roundHalfEven num (den * Nat.pow 2 exponent.toNat)
      else roundHalfEven (num * Nat.pow 2 (-exponent).toNat) den
    -- A significand that has grown to the next power of two carries into the exponent.
    min infinity (significand + (exponent + 1074).toNat * Nat.pow 2 52)

/-- The number with a sign and a magnitude. -/
def ofMagnitude (negative : Bool) (magnitude : Nat) : Binary64 :=
  ⟨UInt64.ofNat (if negative then Nat.pow 2 63 + magnitude else magnitude)⟩

/-! ## Arithmetic on finite magnitudes -/

/-- A finite magnitude as a quotient of natural numbers. -/
def ratio (magnitude : Nat) : Nat × Nat :=
  let e := exponentOf magnitude
  if 0 ≤ e then (significandOf magnitude * Nat.pow 2 e.toNat, 1)
  else (significandOf magnitude, Nat.pow 2 (-e).toNat)

/-- The rounded product of two finite magnitudes. -/
def mul (a b : Nat) : Nat :=
  ofRatio ((ratio a).1 * (ratio b).1) ((ratio a).2 * (ratio b).2)

/-- The rounded quotient of two finite magnitudes, the second not zero. -/
def div (a b : Nat) : Nat :=
  ofRatio ((ratio a).1 * (ratio b).2) ((ratio a).2 * (ratio b).1)

/-- The magnitude nearest to a power of ten. -/
def powTen (k : Nat) : Nat := ofRatio (Nat.pow 10 k) 1

example : ofRatio 1 1 = 0x3ff0000000000000 := by decide +kernel

example : ofRatio 1 10 = 0x3fb999999999999a := by decide +kernel

example : powTen 308 = 0x7fe1ccf385ebc8a0 ∧ powTen 309 = infinity := by decide +kernel

example : (⟨0x8000000000000000⟩ : Binary64).value = .finite true 0 (-1074) := by decide +kernel

end Binary64

end SchemaSql.Number
