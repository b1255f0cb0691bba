/-
The lists of statements that a script can have.

Reading a script trims what it finds and puts the terminator behind it, so what comes
out is not any list of texts. Its entries are normal (`IsNormal`): a body with something
in it and no blank at either end, and then one semicolon that is the terminator. What
the body contains is free. It may have semicolons inside and at its end, and it may end
in a backslash, because reading has already resolved the escapes.

This file shows that nothing else restricts the lists. A list of normal statements is
read back from the script that is written for it, so it is the list of at least that
script, and the lists of normal statements are exactly those that occur
(`read_lists_are_normal`). Reading what was written for a list that was read is therefore
reading it once.
-/
import SchemaSql.Proofs.Script.RoundTrip

set_option autoImplicit false

namespace SchemaSql.Script

open SchemaSql.Text

/-- **A normal statement.** A body that is neither empty nor has a blank at an end, and behind it
the terminator. -/
def IsNormal (s : String) : Prop :=
  ∃ body : List Char, body ≠ [] ∧ trim body = body ∧ s.toList = body ++ [';']

/-! ## What reading yields -/

theorem isNormal_of_statement? {piece : List Char} {s : String} (h : statement? piece = some s) :
    IsNormal s := by
  obtain ⟨hne, rfl⟩ := statement?_eq_some_iff.mp h
  exact ⟨trim piece, hne, trim_trim piece, String.toList_ofList⟩

/-- **Every statement of a script is normal.** -/
theorem isNormal_of_mem_statements {script s : String} (h : s ∈ statements script) :
    IsNormal s := by
  obtain ⟨piece, -, hs⟩ := List.mem_filterMap.mp h
  exact isNormal_of_statement? hs

/-! ## What writing keeps -/

theorem normalForm?_of_isNormal {s : String} (h : IsNormal s) : normalForm? s = some s := by
  obtain ⟨body, hne, htrim, hs⟩ := h
  -- The terminator is all that is taken off, whatever the body ends in.
  rw [normalForm?_eq, hs, body_concat_semicolon, statement?_eq_some_iff, htrim, ← hs,
    String.ofList_toList]
  exact ⟨hne, rfl⟩

/-- Normal statements come back from the script that is written for them. -/
theorem statements_ofStatements_of_isNormal {list : List String} (h : ∀ s ∈ list, IsNormal s) :
    statements (ofStatements list) = list :=
  statements_ofStatements_of_normal fun s hs => normalForm?_of_isNormal (h s hs)

/-- **The lists that are read are the lists of normal statements.** Such a list is read from some
script exactly if all its entries are normal, and then it is read from the script that is written
for it. So writing down what was read and reading it again changes nothing. -/
theorem read_lists_are_normal (list : List String) :
    ((∃ script, statements script = list) ↔ ∀ s ∈ list, IsNormal s)
      ∧ ((∀ s ∈ list, IsNormal s) ↔ statements (ofStatements list) = list)
      ∧ ∀ script, statements (ofStatements (statements script)) = statements script := by
  have hread : ∀ script, ∀ s ∈ statements script, IsNormal s :=
    fun script s hs => isNormal_of_mem_statements hs
  refine ⟨⟨?_, ?_⟩, ⟨?_, ?_⟩, ?_⟩
  · rintro ⟨script, rfl⟩
    exact hread script
  · intro h
    exact ⟨ofStatements list, statements_ofStatements_of_isNormal h⟩
  · exact statements_ofStatements_of_isNormal
  · intro h
    rw [← h]
    exact hread (ofStatements list)
  · intro script
    exact statements_ofStatements_of_isNormal (hread script)

/-- A second semicolon at the end, an escape at the end and a backslash at the end. -/
example : statements "a\\;;b\\\\; ;\\" = ["a;;", "b\\;;", "\\;"]
    ∧ statements (ofStatements ["a;;", "b\\;;", "\\;"]) = ["a;;", "b\\;;", "\\;"] := by
  decide +kernel

end SchemaSql.Script
