/-
Defaults as literals.

A default value that is no expression of the caller is written as a literal, and each kind of
value has its own form of literal (`IsLiteral`). The form is said for the whole text, so that
nothing of the literal is missing and nothing else is written with it. Where it stands, it is
between the keyword and a character that cannot belong to it
(`Table.endsToken_afterLiteral`), so that whoever reads the statement finds it again.

There is one exception. A floating point value may be infinite or no number at all. Such a
value has no digits, no dialect has a literal for it, and nothing refuses it. What is written
then is a word, which is read as the name of something.
-/
import SchemaSql.Proofs.Number.Numeral
import SchemaSql.Proofs.Table.StringDefaults

set_option autoImplicit false

namespace SchemaSql

open SchemaSql.Number SchemaSql.Text

/-! ## The text of a default -/

/-- **The literals of a value** in a dialect. SQLite has numbers for the truth values. A string
is read as the standard has it, where a quote stands for itself if it is doubled and a backslash
is a character like any other. -/
def IsLiteral (d : Dialect) : DefaultValue → String → Prop
  | .null, text => text = "NULL"
  | .boolean value, text =>
    text = match d with
      | .sqlite => if value then "1" else "0"
      | .postgres | .mysql => if value then "TRUE" else "FALSE"
  | .integer value, text => IsNumeralOf value.toInt text.toList
  | .float value, text => IsFloatNumeralOf value text.toList
  | .string value, text => readLiteral? none text = some (value, "")
  | .expression _, _ => False

/-- **A default is written as a literal of its kind** exactly if it is no floating point value
without digits. -/
theorem isLiteral_defaultText_iff (d : Dialect) {v : DefaultValue}
    (hvalue : ∀ sql, v ≠ .expression sql) :
    IsLiteral d v (d.defaultText v) ↔ ∀ x, v = .float x → x.isFinite = true := by
  cases v with
  | float x =>
    rw [d.defaultText_float, IsLiteral, isFloatNumeralOf_floatText_iff]
    simp
  | expression sql => exact absurd rfl (hvalue sql)
  | null =>
    refine iff_of_true ?_ (fun _ h => DefaultValue.noConfusion h)
    exact d.defaultText_of_not_boolean nofun
  | boolean value =>
    refine iff_of_true ?_ (fun _ h => DefaultValue.noConfusion h)
    cases d <;> cases value <;> rfl
  | integer value =>
    refine iff_of_true ?_ (fun _ h => DefaultValue.noConfusion h)
    rw [d.defaultText_integer]
    exact isNumeralOf_intText value.toInt
  | string value =>
    refine iff_of_true ?_ (fun _ h => DefaultValue.noConfusion h)
    have hread : readLiteral? none (sqlLiteral value ++ "") = some (value, "") :=
      (readLiteral?_sqlLiteral_iff value "" (.inl rfl)).mpr (by decide)
    rw [d.defaultText_string, IsLiteral]
    rwa [String.append_empty] at hread

/-- **Defaults are literals, unless they have no digits.** In the statement of an accepted table the
text between the keyword and what ends it is a literal of the kind of the value. This holds of every
value but the floating point values that are infinite or no number, and these are written as
words. -/
theorem default_is_literal_iff (d : Dialect) {v : DefaultValue}
    (hvalue : ∀ sql, v ≠ .expression sql) :
    (∀ (t : Table) (sql : String), t.script d = .ok sql →
      ∀ earlier c inlineKey later, t.elements = earlier ++ .column c inlineKey :: later →
        c.default = some v →
          Script.statements sql
              = (t.beforeLiteral d earlier c inlineKey ++ d.defaultText v
                  ++ Table.afterLiteral d c inlineKey later) :: t.indexStatements
            ∧ EndsToken (Table.afterLiteral d c inlineKey later))
      ∧ (IsLiteral d v (d.defaultText v) ↔ ∀ x, v = .float x → x.isFinite = true)
      ∧ ∀ x, v = .float x → x.isFinite = false → d.defaultText v ∈ ["NaN", "inf", "-inf"] := by
  refine ⟨?_, isLiteral_defaultText_iff d hvalue, ?_⟩
  · intro t sql hscript earlier c inlineKey later helements hdefault
    exact ⟨Table.statements_of_default hscript helements hdefault,
      Table.endsToken_afterLiteral d c inlineKey later⟩
  · rintro x rfl hfinite
    rw [d.defaultText_float]
    exact floatText_of_not_isFinite hfinite

/-- A table with a tiny number and the smallest integer. -/
def parcels : Table where
  name := "parcels"
  columns :=
    [{ name := "drift", type := .double, nullable := false
       default := some (.float ⟨0xbe60000000000000⟩) },
     { name := "ballast", type := .bigInteger, unique := true
       default := some (.integer (-9223372036854775808)) },
     { name := "remark", type := .text, default := some (.string "it's -1.") }]

theorem parcels_defaults_are_literals :
    parcels.script .sqlite = .ok (Script.ofStatements (parcels.statements .sqlite))
      ∧ Script.statements (Script.ofStatements (parcels.statements .sqlite))
          = ["CREATE TABLE parcels (drift REAL NOT NULL DEFAULT -0.000000029802322387695313, "
              ++ "ballast INTEGER DEFAULT -9223372036854775808 UNIQUE, "
              ++ "remark TEXT DEFAULT 'it''s -1.');"]
      ∧ IsLiteral .sqlite (.float ⟨0xbe60000000000000⟩) "-0.000000029802322387695313"
      ∧ IsLiteral .sqlite (.integer (-9223372036854775808)) "-9223372036854775808"
      ∧ IsLiteral .sqlite (.string "it's -1.") "'it''s -1.'" := by
  have hscript : parcels.script .sqlite
      = .ok (Script.ofStatements (parcels.statements .sqlite)) :=
    Table.script_eq_ok_iff.mpr ⟨by decide +kernel, rfl⟩
  obtain ⟨hstatements, hdrift, -⟩ := default_is_literal_iff .sqlite
    (fun _ h => DefaultValue.noConfusion h : ∀ sql, .float ⟨0xbe60000000000000⟩ ≠ .expression sql)
  obtain ⟨-, hballast, -⟩ := default_is_literal_iff .sqlite
    (fun _ h => DefaultValue.noConfusion h :
      ∀ sql, .integer (-9223372036854775808) ≠ .expression sql)
  obtain ⟨-, hremark, -⟩ := default_is_literal_iff .sqlite
    (fun _ h => DefaultValue.noConfusion h : ∀ sql, .string "it's -1." ≠ .expression sql)
  refine ⟨hscript, ?_, ?_, ?_, ?_⟩
  · exact (hstatements parcels _ hscript [] _ _ _ rfl rfl).1.trans (by decide +kernel)
  · refine hdrift.mpr ?_
    rintro _ ⟨⟩
    decide +kernel
  · exact hballast.mpr fun _ h => DefaultValue.noConfusion h
  · exact hremark.mpr fun _ h => DefaultValue.noConfusion h

/-- A table with an infinite default. -/
def gauges : Table where
  name := "gauges"
  columns := [{ name := "peak", type := .double, default := some (.float ⟨0x7ff0000000000000⟩) }]

/-- The table is accepted, and its default is a word. -/
theorem infinite_default_is_no_literal :
    gauges.script .postgres = .ok (Script.ofStatements (gauges.statements .postgres))
      ∧ Script.statements (Script.ofStatements (gauges.statements .postgres))
          = ["CREATE TABLE gauges (peak DOUBLE PRECISION DEFAULT inf);"]
      ∧ ¬IsLiteral .postgres (.float ⟨0x7ff0000000000000⟩) "inf" := by
  refine ⟨Table.script_eq_ok_iff.mpr ⟨by decide +kernel, rfl⟩, ?_, ?_⟩
  · exact (Table.statements_ofStatements .postgres gauges).trans (by decide +kernel)
  · intro hliteral
    have hletter : 'i' ∈ "inf".toList := by decide
    exact absurd (isDigit_or_of_mem_isFloatNumeralOf hliteral hletter) (by decide)

end SchemaSql
