/-
The grammar of JSON.

Here is what a JSON text is and what value it spells, in rules and without a reader. A rule
relates a value to two texts. In `Spelled v s r` the text `s` starts with a spelling of `v`,
and `r` is what comes after it. So rules are put together by passing on what is left, and a
document is a text of which nothing but blanks is left (`IsDocument`). The rules are not a
way to read. Blanks may be taken in any portion, and a number may end before its last digit.

Every token may have blanks in front of it. Objects and arrays are alike but for their
brackets and for what an item is, so that there is one rule for both (`Items`). A member of
an object is kept under its key as it is meant, not as it is written, and keys may repeat.
Of a number only that it is one is kept.

A code unit in a string is given by the number that it stands for. That a single one is not
a surrogate need not be said, because it has to be the number of a character.
-/
import SchemaSql.Json.Lexical

set_option autoImplicit false

namespace SchemaSql.Json

/-- A JSON value. -/
inductive Value where
  | null
  | boolean (value : Bool)
  | number
  | string (value : String)
  | array (values : List Value)
  | object (members : List (String × Value))

namespace Grammar

/-! ## Blanks and numbers -/

/-- Any number of blanks, also none. -/
inductive Blanks : List Char → List Char → Prop
  | none {r : List Char} : Blanks r r
  | more {c : Char} {s r : List Char} (hc : c ∈ [' ', '\t', '\n', '\r']) (h : Blanks s r) :
    Blanks (c :: s) r

inductive Digits : List Char → List Char → Prop
  | one {c : Char} {r : List Char} (hc : c.isDigit = true) : Digits (c :: r) r
  | more {c : Char} {s r : List Char} (hc : c.isDigit = true) (h : Digits s r) : Digits (c :: s) r

/-- The whole part of a number. A zero in front stands alone. -/
inductive Whole : List Char → List Char → Prop
  | zero {r : List Char} : Whole ('0' :: r) r
  | digits {c : Char} {s r : List Char} (hc : c ≠ '0') (h : Digits (c :: s) r) : Whole (c :: s) r

inductive Fraction : List Char → List Char → Prop
  | absent {r : List Char} : Fraction r r
  | present {s r : List Char} (h : Digits s r) : Fraction ('.' :: s) r

inductive Exponent : List Char → List Char → Prop
  | absent {r : List Char} : Exponent r r
  | present {letter : Char} {sign s r : List Char} (hletter : letter ∈ ['e', 'E'])
    (hsign : sign ∈ [[], ['+'], ['-']]) (h : Digits s r) : Exponent (letter :: (sign ++ s)) r

inductive Number : List Char → List Char → Prop
  | mk {sign s t u r : List Char} (hsign : sign ∈ [[], ['-']]) (hwhole : Whole s t)
    (hfraction : Fraction t u) (hexponent : Exponent u r) : Number (sign ++ s) r

/-! ## Strings -/

/-- The value of a hexadecimal digit is its place among them. -/
def HexDigit (value : Nat) (c : Char) : Prop :=
  "0123456789abcdef".toList[value]? = some c ∨ "0123456789ABCDEF".toList[value]? = some c

/-- Four hexadecimal digits. -/
inductive CodeUnit : Nat → List Char → List Char → Prop
  | mk {a b c d : Char} {i j k l : Nat} {r : List Char} (ha : HexDigit i a) (hb : HexDigit j b)
    (hc : HexDigit k c) (hd : HexDigit l d) :
    CodeUnit (((i * 16 + j) * 16 + k) * 16 + l) (a :: b :: c :: d :: r) r

/-- The escapes of one sign, with what they stand for. -/
def signs : List (Char × Char) :=
  [('"', '"'), ('\\', '\\'), ('/', '/'), ('b', '\x08'), ('f', '\x0c'), ('n', '\n'), ('r', '\r'),
    ('t', '\t')]

/-- **A character in a string**: as it stands, by a sign, by its number, or by a pair of surrogates
if its number is beyond one unit. -/
inductive Character (c : Char) : List Char → List Char → Prop
  | plain {r : List Char} (hquote : c ≠ '"') (hescape : c ≠ '\\') (hcontrol : 0x20 ≤ c.toNat) :
    Character c (c :: r) r
  | sign {e : Char} {r : List Char} (h : (e, c) ∈ signs) : Character c ('\\' :: e :: r) r
  | unit {s r : List Char} (h : CodeUnit c.toNat s r) : Character c ('\\' :: 'u' :: s) r
  | pair {high low : Nat} {s t r : List Char} (hhigh : CodeUnit high s ('\\' :: 'u' :: t))
    (hlow : CodeUnit low t r) (hhighRange : 0xd800 ≤ high ∧ high ≤ 0xdbff)
    (hlowRange : 0xdc00 ≤ low ∧ low ≤ 0xdfff)
    (hc : c.toNat = 0x10000 + (high - 0xd800) * 0x400 + (low - 0xdc00)) :
    Character c ('\\' :: 'u' :: s) r

/-- **A string** from behind its opening quote, the closing quote included. -/
inductive Text : List Char → List Char → List Char → Prop
  | close {r : List Char} : Text [] ('"' :: r) r
  | more {c : Char} {text s t r : List Char} (hc : Character c s t) (h : Text text t r) :
    Text (c :: text) s r

/-! ## Values -/

/-- **Items up to a closing bracket**, with a comma in front of each but the first. -/
inductive Items {α : Type} (item : α → List Char → List Char → Prop) (bracket : Char) :
    Bool → List α → List Char → List Char → Prop
  | close {isFirst : Bool} {s r : List Char} (h : Blanks s (bracket :: r)) :
    Items item bracket isFirst [] s r
  | first {x : α} {list : List α} {s t r : List Char} (hx : item x s t)
    (h : Items item bracket false list t r) : Items item bracket true (x :: list) s r
  | next {x : α} {list : List α} {s t u r : List Char} (hcomma : Blanks s (',' :: t))
    (hx : item x t u) (h : Items item bracket false list u r) :
    Items item bracket false (x :: list) s r

inductive Member (value : Value → List Char → List Char → Prop) :
    String × Value → List Char → List Char → Prop
  | mk {key : List Char} {v : Value} {s t u w r : List Char} (hquote : Blanks s ('"' :: t))
    (hkey : Text key t u) (hcolon : Blanks u (':' :: w)) (hv : value v w r) :
    Member value (String.ofList key, v) s r

/-- **A spelling of a value**, blanks in front of it included. -/
inductive Spelled : Value → List Char → List Char → Prop
  | null {s r : List Char} (h : Blanks s ("null".toList ++ r)) : Spelled .null s r
  | true {s r : List Char} (h : Blanks s ("true".toList ++ r)) : Spelled (.boolean true) s r
  | false {s r : List Char} (h : Blanks s ("false".toList ++ r)) : Spelled (.boolean false) s r
  | number {s t r : List Char} (hblanks : Blanks s t) (h : Number t r) : Spelled .number s r
  | string {text s t r : List Char} (hquote : Blanks s ('"' :: t)) (h : Text text t r) :
    Spelled (.string (String.ofList text)) s r
  | array {values : List Value} {s t r : List Char} (hbracket : Blanks s ('[' :: t))
    (h : Items Spelled ']' true values t r) : Spelled (.array values) s r
  | object {members : List (String × Value)} {s t r : List Char} (hbracket : Blanks s ('{' :: t))
    (h : Items (Member Spelled) '}' true members t r) : Spelled (.object members) s r

end Grammar

/-- **A JSON document** that spells a value. -/
def IsDocument (v : Value) (text : String) : Prop :=
  ∃ r, Grammar.Spelled v text.toList r ∧ Grammar.Blanks r []

end SchemaSql.Json
