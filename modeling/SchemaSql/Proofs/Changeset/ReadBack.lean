/-
The statements of a changeset, written down and read back.

Everything in a changeset is terminated, but the library has two opinions on what that
means. Where caller-written SQL is added, blanks behind the semicolon do not matter: the
text is terminated as it is and is kept with its blanks. Where a statement is written into
a script, the terminator is the last character or there is none. For a text with blanks
behind its semicolon (`IsLoose`) the two disagree. The script takes the semicolon for a
part of the body, escapes it and puts a terminator behind it, and what is read back has
two.

So the statements do not always come back as they are meant (`tidied?`, blanks cut and one
terminator). The file says when they do. For a single statement it is decided by looseness
alone (`normalForm?_of_not_isLoose`, `normalForm?_of_isLoose`). For a whole changeset it is
decided by the caller, since only caller-written SQL can be loose: the statements that the
library writes end in their terminator (`eq_raw_of_isLoose`). That one loose statement
is enough to spoil the list is shown by counting semicolons. Reading never gives too few of
them and for a loose statement it gives one too many.
-/
import Mathlib.Algebra.GroupWithZero.Nat
import Mathlib.Algebra.Order.BigOperators.Group.List
import Mathlib.Algebra.Order.Group.Nat
import SchemaSql.Proofs.Changeset.Entries
import SchemaSql.Proofs.Script.RoundTrip

set_option autoImplicit false

namespace SchemaSql.Script

open SchemaSql.Text

/-! ## One statement -/

/-- **What a statement is to come back as.** Blanks behind its terminator and at the ends of its
body are cut. Nothing comes back if the body is blank. -/
def tidied? (s : String) : Option String := statement? (body (trimEnd s.toList))

/-- **A loose text** has blanks behind its terminator. -/
def IsLoose (s : String) : Prop :=
  (trimEnd s.toList).getLast? = some ';' ∧ trimEnd s.toList ≠ s.toList

instance : DecidablePred IsLoose := fun s =>
  inferInstanceAs
    (Decidable ((trimEnd s.toList).getLast? = some ';' ∧ trimEnd s.toList ≠ s.toList))

def terminators (s : String) : Nat := s.toList.count ';'

theorem not_isLoose_append_terminator (s : String) : ¬IsLoose (s ++ ";") := fun h =>
  h.2 (trimEnd_append_terminator s)

/-- Where there are blanks at the end, no terminator is. -/
theorem body_of_trimEnd_ne {s : List Char} (h : trimEnd s ≠ s) : body s = s := by
  apply body_eq_self
  intro hlast
  obtain ⟨front, rfl⟩ := List.getLast?_eq_some_iff.mp hlast
  exact h (trimEnd_concat_of_not_blank front (by decide))

theorem normalForm?_of_not_isLoose {s : String} (h : ¬IsLoose s) : normalForm? s = tidied? s := by
  rw [normalForm?_eq, tidied?]
  by_cases hblank : trimEnd s.toList = s.toList
  · rw [hblank]
  · -- No terminator is seen with the blanks, and none without them.
    have hnone : (trimEnd s.toList).getLast? ≠ some ';' := fun hlast => h ⟨hlast, hblank⟩
    rw [body_of_trimEnd_ne hblank, body_eq_self hnone, statement?, statement?, trim_trimEnd]

/-- **A loose statement gets a second terminator.** -/
theorem normalForm?_of_isLoose {s : String} (h : IsLoose s) :
    normalForm? s = some (String.ofList (trim s.toList ++ [';'])) := by
  obtain ⟨hlast, hblank⟩ := h
  rw [normalForm?_eq, body_of_trimEnd_ne hblank, statement?_eq_some_iff]
  refine ⟨?_, rfl⟩
  intro hnil
  have hcount : (trimEnd s.toList).count ';' = 0 := by
    rw [count_trimEnd (by decide), ← count_trim (by decide), hnil, List.count_nil]
  exact List.count_eq_zero.mp hcount (List.mem_of_getLast? hlast)

theorem terminators_normalForm?_of_isLoose {s : String} (h : IsLoose s) :
    ((normalForm? s).map terminators).getD 0 = terminators s + 1 := by
  rw [normalForm?_of_isLoose h, Option.map_some, Option.getD_some, terminators,
    String.toList_ofList, List.count_append, count_trim (by decide), List.count_singleton_self,
    terminators]

theorem terminators_tidied?_le {s : String} (h : IsLoose s) :
    ((tidied? s).map terminators).getD 0 ≤ terminators s := by
  obtain ⟨front, hfront⟩ := List.getLast?_eq_some_iff.mp h.1
  have hcount : terminators s = front.count ';' + 1 := by
    rw [terminators, ← count_trimEnd (by decide), hfront, List.count_append,
      List.count_singleton_self]
  rw [tidied?, hfront, body_concat_semicolon]
  cases hs : statement? front with
  | none => exact Nat.zero_le _
  | some u =>
    obtain ⟨-, rfl⟩ := statement?_eq_some_iff.mp hs
    rw [Option.map_some, Option.getD_some, terminators, String.toList_ofList, List.count_append,
      count_trim (by decide), List.count_singleton_self, hcount]

/-! ## A list of statements -/

theorem sum_terminators_filterMap (f : String → Option String) (list : List String) :
    ((list.filterMap f).map terminators).sum
      = (list.map fun s => ((f s).map terminators).getD 0).sum := by
  induction list with
  | nil => rfl
  | cons s list ih =>
    rw [List.map_cons, List.sum_cons, ← ih]
    cases hs : f s with
    | none =>
      rw [List.filterMap_cons_none hs, Option.map_none, Option.getD_none, Nat.zero_add]
    | some u =>
      rw [List.filterMap_cons_some hs, List.map_cons, List.sum_cons, Option.map_some,
        Option.getD_some]

/-- **A list comes back as it is meant** exactly if nothing in it is loose. -/
theorem statements_ofStatements_eq_tidied_iff (list : List String) :
    statements (ofStatements list) = list.filterMap tidied? ↔ ∀ s ∈ list, ¬IsLoose s := by
  rw [statements_ofStatements]
  constructor
  · intro heq s hs hloose
    have hle : ∀ u ∈ list, ((tidied? u).map terminators).getD 0
        ≤ ((normalForm? u).map terminators).getD 0 := by
      intro u _
      by_cases hu : IsLoose u
      · rw [terminators_normalForm?_of_isLoose hu]
        exact Nat.le_succ_of_le (terminators_tidied?_le hu)
      · rw [normalForm?_of_not_isLoose hu]
    have hlt : ((tidied? s).map terminators).getD 0
        < ((normalForm? s).map terminators).getD 0 := by
      rw [terminators_normalForm?_of_isLoose hloose]
      exact Nat.lt_succ_of_le (terminators_tidied?_le hloose)
    have hsum := List.sum_lt_sum _ _ hle ⟨s, hs, hlt⟩
    rw [← sum_terminators_filterMap, ← sum_terminators_filterMap, heq] at hsum
    exact Nat.lt_irrefl _ hsum
  · intro hall
    exact List.filterMap_congr fun s hs => normalForm?_of_not_isLoose (hall s hs)

end SchemaSql.Script

namespace SchemaSql.Changeset

open SchemaSql.Script SchemaSql.Text

/-! ## The statements of a run -/

/-- A statement that was added is loose only if a caller wrote it so. -/
theorem eq_raw_of_isLoose {d : Dialect} {capabilities : Capabilities} {op : Operation}
    {list : List String} {s : String} (hadded : op.added d capabilities = .ok list) (hs : s ∈ list)
    (hloose : IsLoose s) : op = .raw s := by
  rcases Operation.eq_append_of_mem_added hadded hs with ⟨sql, rfl, rfl⟩ | ⟨front, rfl⟩
  · rw [terminated] at hloose ⊢
    by_cases hlast : (trimEnd sql.toList).getLast? = some ';'
    · rw [if_pos hlast]
    · rw [if_neg hlast] at hloose
      exact absurd hloose (not_isLoose_append_terminator sql)
  · exact absurd hloose (not_isLoose_append_terminator front)

/-- What a caller writes is in the run, terminated. -/
theorem mem_segments_of_raw {d : Dialect} {capabilities : Capabilities} {ops : List Operation}
    {sql : String} (h : .raw sql ∈ ops) :
    terminated sql ∈ (segments d capabilities ops).flatten := by
  induction ops generalizing capabilities with
  | nil => cases h
  | cons op ops ih =>
    rw [segments, List.flatten_cons, List.mem_append]
    rcases List.mem_cons.mp h with rfl | h
    · left
      rw [segment_of_added_ok rfl]
      exact List.mem_singleton_self (terminated sql)
    · exact .inr (ih h)

/-- **When a changeset comes back as it is meant.** The statements of a run are written into a
script and read back. They come back in their order with their blanks cut and one terminator each,
and without those that have a blank body, exactly if the caller has written no loose text. A loose
statement comes back with a second terminator, and it was written so by the caller. -/
theorem run_comes_back_iff (d : Dialect) (capabilities : Capabilities) (ops : List Operation) :
    let list := ((blank d capabilities).run ops).statements
    (Script.statements (Script.ofStatements list) = list.filterMap tidied?
      ↔ ∀ sql, .raw sql ∈ ops → ¬IsLoose sql)
      ∧ Script.statements (Script.ofStatements list)
          = list.filterMap (fun s =>
              if IsLoose s then some (String.ofList (trim s.toList ++ [';'])) else tidied? s)
      ∧ ∀ s ∈ list, IsLoose s → .raw s ∈ ops := by
  have hrun : ((blank d capabilities).run ops).statements
      = (segments d capabilities ops).flatten := by
    rw [run_eq]
    rfl
  have hcaller : ∀ s ∈ (segments d capabilities ops).flatten, IsLoose s → .raw s ∈ ops := by
    intro s hs hloose
    obtain ⟨op, hop, now, added, hadded, hmem⟩ := exists_added_of_mem_segments hs
    exact eq_raw_of_isLoose hadded hmem hloose ▸ hop
  have hkept : ∀ sql, IsLoose sql → terminated sql = sql := fun sql hloose => if_pos hloose.1
  simp only [hrun]
  refine ⟨?_, ?_, hcaller⟩
  · rw [statements_ofStatements_eq_tidied_iff]
    constructor
    · intro hall sql hraw hloose
      have hmem : terminated sql ∈ (segments d capabilities ops).flatten :=
        mem_segments_of_raw hraw
      rw [hkept sql hloose] at hmem
      exact hall sql hmem hloose
    · intro hnone s hs hloose
      exact hnone s (hcaller s hs hloose) hloose
  · rw [statements_ofStatements]
    apply List.filterMap_congr
    intro s _
    by_cases hloose : IsLoose s
    · rw [if_pos hloose, normalForm?_of_isLoose hloose]
    · rw [if_neg hloose, normalForm?_of_not_isLoose hloose]

/-- The statement of a caller who has put a blank behind the semicolon. -/
theorem loose_statement_comes_back_altered :
    let list := ((blank .postgres ⟨true⟩).run [.raw "VACUUM; "]).statements
    list = ["VACUUM; "] ∧ list.filterMap tidied? = ["VACUUM;"]
      ∧ Script.statements (Script.ofStatements list) = ["VACUUM;;"] := by
  decide +kernel

end SchemaSql.Changeset
