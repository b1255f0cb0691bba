/-
The fewest decimal digits that stand for a number.

A binary number has an exact decimal form of up to hundreds of digits, but far
fewer are enough to find the number again: any decimal that is nearer to it than
to its neighbours reads back as it. This file picks the shortest such decimal, and
of several with equally many digits the one nearest to the exact value.

The number is `m * 2 ^ q`. The decimals that read back as it are an interval around
it: half the gap to the neighbour on each side, where the gap below is half as wide
at a power of two, and with both ends included exactly when `m` is even. On the grid
of decimals with `n` digits only the two points next to the exact value can be the
nearest one inside, so `digits` asks for `n = 1, 2, …` whether one of these two is
in the interval. Seventeen digits are always enough.

All comparisons are between natural numbers: the value, its interval and the grid
are brought to one denominator first.
-/
import SchemaSql.Number.Binary64

set_option autoImplicit false

namespace SchemaSql.Number

/-- Which of two equally near decimals is written. -/
inductive Tie where
  /-- The one whose last digit is even. -/
  | toEven
  /-- The larger one. -/
  | upward
  deriving DecidableEq, Repr

/-- A decimal `digits * 10 ^ exponent`. -/
structure Decimal where
  digits : Nat
  exponent : Int
  deriving DecidableEq, Repr

namespace Shortest

/-- A positive number and the interval that reads back as it, in units of one denominator. -/
structure Interval where
  /-- The lower end. -/
  low : Nat
  /-- The number itself. -/
  exact : Nat
  /-- The upper end. -/
  high : Nat
  /-- What one is, in the same units. -/
  one : Nat
  /-- Whether the ends belong to the interval. -/
  closed : Bool

/-- The interval around a finite magnitude that is not zero, in quarters of its last place. -/
def interval (magnitude : Nat) : Interval :=
  let m := Binary64.significandOf magnitude
  let q := Binary64.exponentOf magnitude - 2
  -- Below a power of two the numbers stand twice as close, but not below the smallest normal one.
  let below := if m = Nat.pow 2 52 ∧ Nat.pow 2 53 ≤ magnitude then 1 else 2
  let unit := if 0 ≤ q then Nat.pow 2 q.toNat else 1
  { low := (4 * m - below) * unit
    exact := 4 * m * unit
    high := (4 * m + 2) * unit
    one := if 0 ≤ q then 1 else Nat.pow 2 (-q).toNat
    closed := m % 2 = 0 }

/-- The exponent `e` with `10 ^ e ≤ num / den < 10 ^ (e + 1)`, found from a first guess that is at
most `steps` away below it. -/
def floorLog10 (num den : Nat) : (steps : Nat) → (guess : Int) → Int
  | 0, guess => guess
  | steps + 1, guess =>
    let next := guess + 1
    let reached : Bool :=
      if 0 ≤ next then den * Nat.pow 10 next.toNat ≤ num else den ≤ num * Nat.pow 10 (-next).toNat
    if reached then floorLog10 num den steps next else guess

/-- A first guess for `floorLog10`, at most two too small: a power of two has a little under a third
as many decimal digits. -/
def guessLog10 (num den : Nat) : Int :=
  (Binary64.floorLog2 num den * 30103).fdiv 100000 - 1

/-- Whether `digits * 10 ^ exponent` reads back. -/
def reads (i : Interval) (d : Decimal) : Bool :=
  let scaled :=
    if 0 ≤ d.exponent then d.digits * Nat.pow 10 d.exponent.toNat * i.one else d.digits * i.one
  let factor := if 0 ≤ d.exponent then 1 else Nat.pow 10 (-d.exponent).toNat
  if i.closed then i.low * factor ≤ scaled && scaled ≤ i.high * factor
  else i.low * factor < scaled && scaled < i.high * factor

/-- The decimal with the place value `10 ^ exponent` that is nearest to the exact value among the
two next to it that read back, if any does. -/
def onGrid (tie : Tie) (i : Interval) (exponent : Int) : Option Decimal :=
  let num := if 0 ≤ exponent then i.exact else i.exact * Nat.pow 10 (-exponent).toNat
  let den := if 0 ≤ exponent then i.one * Nat.pow 10 exponent.toNat else i.one
  let down : Decimal := ⟨num / den, exponent⟩
  let up : Decimal := ⟨num / den + 1, exponent⟩
  let rest := 2 * (num % den)
  let isDownNearer : Bool :=
    rest < den || (rest == den && tie == .toEven && down.digits % 2 == 0)
  match reads i down, reads i up with
  | true, true => some (if isDownNearer then down else up)
  | true, false => some down
  | false, true => some up
  | false, false => none

/-- Drops zeros at the end of the digits, moving them into the exponent. -/
def normalize : (fuel : Nat) → Decimal → Decimal
  | 0, d => d
  | fuel + 1, d =>
    if d.digits % 10 = 0 ∧ d.digits ≠ 0 then normalize fuel ⟨d.digits / 10, d.exponent + 1⟩
    else d

/-- Tries the grids with `18 - left` digits and more, where `leading` is the exponent of the first
digit. -/
def search (tie : Tie) (i : Interval) (leading : Int) : (left : Nat) → Decimal
  | 0 => ⟨i.exact / i.one, 0⟩
  | left + 1 =>
    match onGrid tie i (leading - 17 + (left + 1 : Nat)) with
    | some d => d
    | none => search tie i leading left

/-- **The shortest decimal** that reads back as a finite magnitude, without zeros at its end. -/
def digits (tie : Tie) (magnitude : Nat) : Decimal :=
  if magnitude = 0 then ⟨0, 0⟩
  else
    let i := interval magnitude
    let leading := floorLog10 i.exact i.one 4 (guessLog10 i.exact i.one)
    normalize 20 (search tie i leading 17)

end Shortest

end SchemaSql.Number
