/-
JSON numbers, by the value that they stand for.

A numeral without a fraction and without an exponent is an integer as long as it
fits into 64 bits, with a sign or without. Every other numeral, and `-0` as well,
is a floating point number. Its value is found in two roundings and so need not be
the nearest one: the digits are collected into a significand of 64 bits, those past
its capacity count only for their place, and the significand is then multiplied or
divided once by a power of ten. A numeral whose value has no finite counterpart is
no number.

`Numeral` holds the parts of the written form; `Numeral.read?` takes a text apart
into them and `Numeral.value?` says what they stand for.
-/
import SchemaSql.Number.Binary64

set_option autoImplicit false

namespace SchemaSql.Json

open SchemaSql.Number

/-! ## The written form -/

/-- The parts of a numeral, digits as they are written. -/
structure Numeral where
  negative : Bool
  whole : List Char
  /-- The digits after the point, if there is one. -/
  fraction : Option (List Char)
  /-- Whether the exponent is negative and its digits, if there is one. -/
  exponent : Option (Bool × List Char)
  deriving DecidableEq, Repr

namespace Numeral

/-- The digits in front of a text and what follows them. There has to be one. -/
def readDigits? (s : List Char) : Option (List Char × List Char) :=
  match s.takeWhile Char.isDigit with
  | [] => none
  | digits => some (digits, s.dropWhile Char.isDigit)

/-- The whole part: a zero that stands alone, or digits that do not start with zero. -/
def readWhole? (s : List Char) : Option (List Char × List Char) :=
  match readDigits? s with
  | some ('0' :: _ :: _, _) => none
  | r => r

/-- The fraction, if a point follows. A point without digits is a mistake. -/
def readFraction? : List Char → Option (Option (List Char) × List Char)
  | '.' :: rest => (readDigits? rest).map fun (digits, rest) => (some digits, rest)
  | s => some (none, s)

/-- The sign of an exponent, if there is one. -/
def readSign : List Char → Bool × List Char
  | '-' :: rest => (true, rest)
  | '+' :: rest => (false, rest)
  | s => (false, s)

/-- The exponent, if the letter for it follows. A letter without digits is a mistake. -/
def readExponent? : List Char → Option (Option (Bool × List Char))
  | [] => some none
  | c :: rest =>
    if c = 'e' ∨ c = 'E' then
      let (isNegative, rest) := readSign rest
      (readDigits? rest).map fun (digits, _) => some (isNegative, digits)
    else some none

/-- **Reading a numeral** in front of a text. What follows it is not looked at. -/
def read? (s : List Char) : Option Numeral :=
  let (negative, s) := match s with
    | '-' :: rest => (true, rest)
    | s => (false, s)
  match readWhole? s with
  | none => none
  | some (whole, rest) =>
    match readFraction? rest with
    | none => none
    | some (fraction, rest) =>
      (readExponent? rest).map fun exponent => ⟨negative, whole, fraction, exponent⟩

/-! ## The value -/

/-- What a numeral stands for. -/
inductive Value where
  | integer (value : Int)
  | float (value : Binary64)
  deriving DecidableEq, Repr

/-- The value of a decimal digit. -/
def digitValue (c : Char) : Nat := c.toNat - '0'.toNat

/-- Appends digits to a significand as long as it stays within 64 bits. The digits from the first
one on that does not fit are given back. -/
def collect (significand : Nat) : List Char → Nat × List Char
  | [] => (significand, [])
  | c :: rest =>
    let next := significand * 10 + digitValue c
    if next < Nat.pow 2 64 then collect next rest else (significand, c :: rest)

/-- The value of digits, however many. -/
def natValue (digits : List Char) : Nat :=
  digits.foldl (fun n c => n * 10 + digitValue c) 0

/-- The largest power of ten that is a finite number. -/
def maxPowTen : Nat := 308

/-- Divides a magnitude by a power of ten, in steps that are finite numbers themselves. -/
def scaleDown (magnitude k : Nat) : Nat :=
  if k ≤ maxPowTen then Binary64.div magnitude (Binary64.powTen k)
  else if magnitude = 0 then 0
  else scaleDown (Binary64.div magnitude (Binary64.powTen maxPowTen)) (k - maxPowTen)
termination_by k
decreasing_by
  simp only [maxPowTen] at *
  omega

/-- `significand * 10 ^ exponent` as a magnitude, if it is finite. -/
def scale? (significand : Nat) (exponent : Int) : Option Nat :=
  let magnitude := Binary64.ofRatio significand 1
  if exponent < 0 then some (scaleDown magnitude exponent.natAbs)
  else if exponent.natAbs ≤ maxPowTen then
    let product := Binary64.mul magnitude (Binary64.powTen exponent.natAbs)
    if product < Binary64.infinity then some product else none
  else if magnitude = 0 then some 0
  else none

/-- The exponents that are told apart; the larger ones all have the same effect. -/
def maxExponent : Nat := Nat.pow 2 31 - 1

/-- The exponent of a numeral together with the places that its digits take: `none` where it is out
of reach. -/
def totalExponent (places : Int) : Option (Bool × List Char) → Option Int
  | none => some places
  | some (isNegative, digits) =>
    let n := natValue digits
    if maxExponent < n then none
    else some (if isNegative then places - n else places + n)

/-- **The value of a numeral**, if it has one. -/
def value? (n : Numeral) : Option Value :=
  let (whole, excess) := collect 0 n.whole
  let isInteger := n.fraction.isNone && n.exponent.isNone && excess.isEmpty
  if isInteger && !n.negative then some (.integer whole)
  else if isInteger && 0 < whole && whole ≤ Nat.pow 2 63 then some (.integer (-whole))
  else
    -- A digit of the fraction that is collected costs a place, one of the whole part that is not
    -- collected gains one.
    let fraction := n.fraction.getD []
    let (significand, surplus) := collect whole fraction
    let places : Int := (excess.length : Int) - (fraction.length - surplus.length : Nat)
    let magnitude? : Option Nat :=
      match totalExponent places n.exponent with
      | some exponent => scale? significand exponent
      | none =>
        -- Out of reach means zero or too large, whatever the other parts are.
        if significand = 0 then some 0
        else if (n.exponent.map Prod.fst) = some true then some 0
        else none
    magnitude?.map fun magnitude => .float (Binary64.ofMagnitude n.negative magnitude)

end Numeral

end SchemaSql.Json
