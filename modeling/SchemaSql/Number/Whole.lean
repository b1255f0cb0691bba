/-
Whole numbers as decimal text: no leading zeros, a minus sign before a negative number and no sign
before any other.
-/

set_option autoImplicit false

namespace SchemaSql.Number

/-- The decimal digits of a natural number, the most significant first. -/
def decimalDigits (n : Nat) : List Char := Nat.toDigits 10 n

/-- A natural number in decimal. -/
def natText (n : Nat) : String := String.ofList (decimalDigits n)

/-- An integer in decimal. -/
def intText : Int → String
  | .ofNat n => natText n
  | .negSucc n => String.ofList ('-' :: decimalDigits (n + 1))

end SchemaSql.Number
