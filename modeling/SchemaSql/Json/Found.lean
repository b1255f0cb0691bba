/-
What a JSON text holds at some place, as far as a message needs it.

When a value has the wrong type, the message says what was found instead: the kind
of value, and for a simple value the value itself. An array or an object is known by
its bracket; what stands in it does not matter any more.
-/
import SchemaSql.Json.Lexical
import SchemaSql.Json.Numeral
import SchemaSql.Number.Layout
import SchemaSql.Text.Quoted

set_option autoImplicit false

namespace SchemaSql.Json

open SchemaSql.Number

/-- A JSON value as far as it is looked at. -/
inductive Found where
  | null
  | boolean (value : Bool)
  | number (value : Numeral.Value)
  | string (value : String)
  | array
  | object
  deriving DecidableEq, Repr

namespace Found

/-- **Reading** what a text starts with. Nothing comes back if no value starts there. -/
def read? (s : List Char) : Option Found :=
  match s with
  | [] => none
  | 'n' :: _ => (afterWord? "null" s).map fun _ => .null
  | 't' :: _ => (afterWord? "true" s).map fun _ => .boolean true
  | 'f' :: _ => (afterWord? "false" s).map fun _ => .boolean false
  | '"' :: rest => (readString? rest).map fun (text, _) => .string (String.ofList text)
  | '[' :: _ => some .array
  | '{' :: _ => some .object
  | c :: _ =>
    if c = '-' ∨ c.isDigit then (Numeral.read? s).bind fun n => n.value?.map .number else none

/-- **Numbers in messages** have a point or an exponent. The exponents from -5 to 15 are written
out. -/
def floatLayout : Layout where
  tie := .toEven
  isPositional e := -5 ≤ e && e ≤ 15
  wholeEnding := ['.', '0']
  exponentPlus := ['+']
  nan := ['N', 'a', 'N']
  infinity := ['i', 'n', 'f']

/-- The ends of the exponents that are written out. -/
example : floatLayout.text ⟨0x4341c37937e08000⟩ = "1e+16"
    ∧ floatLayout.text ⟨0x430c6bf526340000⟩ = "1000000000000000.0"
    ∧ floatLayout.text ⟨0x3ee4f8b588e368f1⟩ = "0.00001" := by decide +kernel

/-- What was found, in the words of a message. -/
def description : Found → String
  | .null => "null"
  | .boolean value => "boolean `" ++ (if value then "true" else "false") ++ "`"
  | .number (.integer value) => "integer `" ++ intText value ++ "`"
  | .number (.float value) => "floating point `" ++ floatLayout.text value ++ "`"
  | .string value => "string " ++ Text.quoted value
  | .array => "sequence"
  | .object => "map"

end Found

end SchemaSql.Json
