/-
Floating point numbers as text.

Which digits are written is settled by `SchemaSql.Number.Shortest`. Where the point
goes, whether an exponent is used, and what the numbers without digits are called is
settled here, by one record per kind of text: a `Layout`. A text has the form
`[-]digits[.digits]`, or `[-]d[.digits]e[+|-]digits` for the exponents that the
layout does not write out.
-/
import SchemaSql.Number.Shortest
import SchemaSql.Number.Whole

set_option autoImplicit false

namespace SchemaSql.Number

/-- The decisions of a kind of number text. -/
structure Layout where
  /-- Which of two equally near decimals is written. -/
  tie : Tie
  /-- Whether a number whose first digit has this exponent is written without an exponent. -/
  isPositional : Int → Bool
  /-- What follows the digits of a whole number in positional form. -/
  wholeEnding : List Char
  /-- The sign of an exponent that is not negative. -/
  exponentPlus : List Char
  /-- The text for a value that is no number. -/
  nan : List Char
  /-- The text for an infinite value, after its sign. -/
  infinity : List Char

namespace Layout

/-- **Positional form.** The digits with zeros up to the point, and the point where it belongs. -/
def positional (layout : Layout) (d : Decimal) : List Char :=
  let ds := decimalDigits d.digits
  let places := (-d.exponent).toNat
  if 0 ≤ d.exponent then ds ++ List.replicate d.exponent.toNat '0' ++ layout.wholeEnding
  else if places < ds.length then
    ds.take (ds.length - places) ++ '.' :: ds.drop (ds.length - places)
  else '0' :: '.' :: List.replicate (places - ds.length) '0' ++ ds

/-- **Form with an exponent.** One digit before the point, and no point after a single digit. -/
def scientific (layout : Layout) (leading : Int) (ds : List Char) : List Char :=
  let fraction := if ds.length ≤ 1 then [] else '.' :: ds.drop 1
  let sign := if leading < 0 then ['-'] else layout.exponentPlus
  ds.take 1 ++ fraction ++ 'e' :: sign ++ decimalDigits leading.natAbs

/-- The text of a finite magnitude. -/
def magnitudeText (layout : Layout) (magnitude : Nat) : List Char :=
  let d := Shortest.digits layout.tie magnitude
  let ds := decimalDigits d.digits
  let leading : Int := d.exponent + ds.length - 1
  if layout.isPositional leading then layout.positional d else layout.scientific leading ds

/-- **The text of a number.** A minus sign stands before every number whose sign is negative, zero
included, but not before what is no number. -/
def text (layout : Layout) (x : Binary64) : String :=
  match x.value with
  | .nan => String.ofList layout.nan
  | .infinite negative => String.ofList ((if negative then ['-'] else []) ++ layout.infinity)
  | .finite negative _ _ =>
    String.ofList ((if negative then ['-'] else []) ++ layout.magnitudeText x.magnitude)

end Layout

end SchemaSql.Number
