/-
The spelling of JSON texts: blanks, fixed words and strings.

JSON has a small set of blanks of its own, four ASCII characters, and strings in
which a character can be spelled by an escape. A code point outside the first plane
takes two escapes, a high and a low surrogate; a surrogate without its partner spells
nothing, and neither does a control character that stands in the string as it is.

Readers here take a list of characters and give back what they read together with
the rest, or nothing if the text does not start with what they look for.
-/

set_option autoImplicit false

namespace SchemaSql.Json

/-! ## Blanks and words -/

/-- The blanks of JSON: space, tab and the two line ends. -/
def isSpace (c : Char) : Bool := c == ' ' || c == '\t' || c == '\n' || c == '\r'

/-- The text from its first character that is not a blank. -/
def skipSpace (s : List Char) : List Char := s.dropWhile isSpace

/-- What follows a word, if the text starts with it. -/
def afterWord? (word : String) (s : List Char) : Option (List Char) :=
  word.toList.isPrefixOf? s

/-! ## Characters in a string -/

/-- The value of a hexadecimal digit, in either case. -/
def hexDigit? (c : Char) : Option Nat :=
  if '0' ≤ c ∧ c ≤ '9' then some (c.toNat - '0'.toNat)
  else if 'a' ≤ c ∧ c ≤ 'f' then some (c.toNat - 'a'.toNat + 10)
  else if 'A' ≤ c ∧ c ≤ 'F' then some (c.toNat - 'A'.toNat + 10)
  else none

/-- Reads four hexadecimal digits. -/
def readUnit? : List Char → Option (Nat × List Char)
  | a :: b :: c :: d :: rest => do
    let a ← hexDigit? a
    let b ← hexDigit? b
    let c ← hexDigit? c
    let d ← hexDigit? d
    return (((a * 16 + b) * 16 + c) * 16 + d, rest)
  | _ => none

/-- The first half of a pair that spells one code point. -/
def isHighSurrogate (unit : Nat) : Bool := 0xd800 ≤ unit && unit ≤ 0xdbff

/-- The second half of a pair that spells one code point. -/
def isLowSurrogate (unit : Nat) : Bool := 0xdc00 ≤ unit && unit ≤ 0xdfff

/-- The code point of a pair. -/
def ofPair (high low : Nat) : Char :=
  Char.ofNat (0x10000 + (high - 0xd800) * 0x400 + (low - 0xdc00))

/-- Reads what follows `\u`: one code point, spelled by one unit or by a pair. -/
def readCodePoint? (s : List Char) : Option (Char × List Char) :=
  match readUnit? s with
  | none => none
  | some (unit, rest) =>
    if isLowSurrogate unit then none
    else if isHighSurrogate unit then
      match rest with
      | '\\' :: 'u' :: rest =>
        match readUnit? rest with
        | none => none
        | some (low, rest) => if isLowSurrogate low then some (ofPair unit low, rest) else none
      | _ => none
    else some (Char.ofNat unit, rest)

/-- The character of an escape that is one letter or sign. -/
def shortEscape? (c : Char) : Option Char :=
  match c with
  | '"' => some '"'
  | '\\' => some '\\'
  | '/' => some '/'
  | 'b' => some '\x08'
  | 'f' => some '\x0c'
  | 'n' => some '\n'
  | 'r' => some '\r'
  | 't' => some '\t'
  | _ => none

/-- Reads one character of a string, however it is spelled. The closing quote is none. -/
def readChar? : List Char → Option (Char × List Char)
  | [] => none
  | '\\' :: 'u' :: rest => readCodePoint? rest
  | '\\' :: c :: rest => (shortEscape? c).map fun e => (e, rest)
  | c :: rest => if c = '"' ∨ c = '\\' ∨ c.toNat < 0x20 then none else some (c, rest)

/-! ## Reading takes something off the text -/

theorem length_of_readUnit? {s rest : List Char} {unit : Nat}
    (h : readUnit? s = some (unit, rest)) : rest.length < s.length := by
  unfold readUnit? at h
  split at h
  · simp only [Option.bind_eq_bind, Option.bind_eq_some_iff, Option.pure_def, Option.some.injEq,
      Prod.mk.injEq] at h
    obtain ⟨_, _, _, _, _, _, _, _, _, rfl⟩ := h
    simp only [List.length_cons]
    omega
  · simp at h

theorem length_of_readCodePoint? {s rest : List Char} {c : Char}
    (h : readCodePoint? s = some (c, rest)) : rest.length < s.length := by
  unfold readCodePoint? at h
  split at h
  · simp at h
  · next unit tail hu =>
    have hlen := length_of_readUnit? hu
    split at h
    · simp at h
    · split at h
      · split at h
        · next tail' =>
          split at h
          · simp at h
          · next low tail'' hl =>
            have hlen' := length_of_readUnit? hl
            split at h
            · simp only [Option.some.injEq, Prod.mk.injEq] at h
              simp only [List.length_cons] at hlen
              rw [← h.2]
              omega
            · simp at h
        · simp at h
      · simp only [Option.some.injEq, Prod.mk.injEq] at h
        rw [← h.2]
        exact hlen

/-- **A character takes room.** What is left after reading one is shorter. -/
theorem length_of_readChar? {s rest : List Char} {c : Char}
    (h : readChar? s = some (c, rest)) : rest.length < s.length := by
  unfold readChar? at h
  split at h
  · simp at h
  · next tail =>
    have hlen := length_of_readCodePoint? h
    simp only [List.length_cons]
    omega
  · next e tail _ =>
    simp only [Option.map_eq_some_iff, Prod.mk.injEq] at h
    obtain ⟨_, _, _, rfl⟩ := h
    simp only [List.length_cons]
    omega
  · split at h
    · simp at h
    · simp only [Option.some.injEq, Prod.mk.injEq] at h
      simp [← h.2]

/-! ## Strings -/

/-- **Reading a string** from behind its opening quote: the characters up to the closing quote, and
what follows it. -/
def readString? (s : List Char) : Option (List Char × List Char) :=
  match s with
  | '"' :: rest => some ([], rest)
  | s =>
    match _h : readChar? s with
    | none => none
    | some (c, rest) => (readString? rest).map fun (text, rest) => (c :: text, rest)
termination_by s.length
decreasing_by exact length_of_readChar? _h

end SchemaSql.Json
