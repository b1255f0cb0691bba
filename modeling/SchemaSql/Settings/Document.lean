/-
Settings documents: settings written in JSON.

A document is an object with the fields `dialect` and `native_drop_column`, each at
most once and in any order, or an array of the two values, which may stop early. What
is left out has its default. A dialect is a string that names one; the other field is
a truth value or null, and null is the same as leaving it out.

Reading goes from left to right and stops at the first flaw. That fixes which of
several flaws is told: a key counts as soon as it is read, before the value behind it;
a value of the right type is accepted before the text behind it is looked at; a value
of the wrong type is told even if the text behind it is broken.

There are only two fields, and a field leaves the list of fields to come when it is
read (`readMembers`). So the reader ends, and a key that is no longer in the list is a
duplicate.
-/
import SchemaSql.Settings
import SchemaSql.Settings.Flaw

set_option autoImplicit false

namespace SchemaSql.Settings

open SchemaSql.Json

/-! ## Values -/

/-- The flaw of a text at which something else was expected. -/
def mismatch (expected : Expectation) (s : List Char) : Flaw :=
  match Found.read? s with
  | some found => .wrongType found expected
  | none => .malformed

/-- Reads a string that names a dialect. -/
def readDialect (s : List Char) : Except Flaw (Dialect × List Char) :=
  match skipSpace s with
  | '"' :: rest =>
    match readString? rest with
    | none => .error .malformed
    | some (text, rest) =>
      match Dialect.ofName? (String.ofList text) with
      | none => .error (.unknownDialect (String.ofList text))
      | some dialect => .ok (dialect, rest)
  | s => .error (mismatch .string s)

/-- Reads a truth value or null. -/
def readSwitch (s : List Char) : Except Flaw (Option Bool × List Char) :=
  let s := skipSpace s
  match afterWord? "null" s, afterWord? "true" s, afterWord? "false" s with
  | some rest, _, _ => .ok (none, rest)
  | _, some rest, _ => .ok (some true, rest)
  | _, _, some rest => .ok (some false, rest)
  | none, none, none => .error (mismatch .boolean s)

/-- Reads the value of a field into the settings. -/
def readValue (settings : Settings) (s : List Char) : Field → Except Flaw (Settings × List Char)
  | .dialect =>
    match readDialect s with
    | .error flaw => .error flaw
    | .ok (dialect, rest) => .ok ({ settings with dialect }, rest)
  | .nativeDropColumn =>
    match readSwitch s with
    | .error flaw => .error flaw
    | .ok (nativeDropColumn, rest) => .ok ({ settings with nativeDropColumn }, rest)

/-! ## The object form -/

/-- Reads the key of a field. -/
def readKey (s : List Char) : Except Flaw (Field × List Char) :=
  match skipSpace s with
  | '"' :: rest =>
    match readString? rest with
    | none => .error .malformed
    | some (text, rest) =>
      match Field.ofKey? (String.ofList text) with
      | none => .error (.unknownField (String.ofList text))
      | some field => .ok (field, rest)
  | _ => .error .malformed

/-- What follows the colon between a key and its value. -/
def afterColon? (s : List Char) : Option (List Char) :=
  match skipSpace s with
  | ':' :: rest => some rest
  | _ => none

/-- The text of the next member: a comma stands before every member but the first. -/
def nextMember? (isFirst : Bool) (s : List Char) : Option (List Char) :=
  if isFirst then some s
  else
    match s with
    | ',' :: rest => some rest
    | _ => none

/-- Reads the members of an object up to its closing brace. -/
def readMembers (toCome : List Field) (isFirst : Bool) (settings : Settings) (s : List Char) :
    Except Flaw (Settings × List Char) :=
  match skipSpace s with
  | '}' :: rest => .ok (settings, rest)
  | s =>
    match nextMember? isFirst s with
    | none => .error .malformed
    | some s =>
      match readKey s with
      | .error flaw => .error flaw
      | .ok (field, s) =>
        if _h : field ∈ toCome then
          match afterColon? s with
          | none => .error .malformed
          | some s =>
            match readValue settings s field with
            | .error flaw => .error flaw
            | .ok (settings, s) => readMembers (toCome.erase field) false settings s
        else .error (.duplicateField field)
termination_by toCome.length
decreasing_by
  rw [List.length_erase_of_mem _h]
  exact Nat.sub_one_lt (Nat.ne_of_gt (List.length_pos_of_mem _h))

/-! ## The array form -/

/-- Reads the closing bracket. -/
def readClose (settings : Settings) (s : List Char) : Except Flaw (Settings × List Char) :=
  match skipSpace s with
  | ']' :: rest => .ok (settings, rest)
  | _ => .error .malformed

/-- Reads the values of an array up to its closing bracket. -/
def readElements (s : List Char) : Except Flaw (Settings × List Char) :=
  match skipSpace s with
  | ']' :: rest => .ok ({}, rest)
  | s =>
    match readValue {} s .dialect with
    | .error flaw => .error flaw
    | .ok (settings, s) =>
      match skipSpace s with
      | ',' :: rest =>
        match readValue settings rest .nativeDropColumn with
        | .error flaw => .error flaw
        | .ok (settings, s) => readClose settings s
      | s => readClose settings s

/-! ## The document -/

/-- Accepts a document if nothing but blanks follows it. -/
def atEnd : Except Flaw (Settings × List Char) → Except Flaw Settings
  | .error flaw => .error flaw
  | .ok (settings, rest) => if (skipSpace rest).isEmpty then .ok settings else .error .malformed

/-- **Reading a settings document.** -/
def ofJson (text : String) : Except Flaw Settings :=
  match skipSpace text.toList with
  | '{' :: rest => atEnd (readMembers Field.all true {} rest)
  | '[' :: rest => atEnd (readElements rest)
  | s => .error (mismatch .document s)

end SchemaSql.Settings
