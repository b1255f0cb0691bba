/-
Splitting what was split.

The output of `split` looks like a script: statements with their terminators, one after the
other. It is meant for people, and nothing in it is encoded. So a call that is given the
output of another one may find other statements in it. Which ones come back is a fact about
printing (`Script.statements_printed_iff`). This file carries it over to calls, wherever they
have their script from and whatever their options are: all that counts is that the call gets
as far as its script (`Splits`), and then it has the statements of that script
(`call_of_splits`).
-/
import SchemaSql.Proofs.CommandLine.Call

set_option autoImplicit false

namespace SchemaSql.CommandLine

variable {fromEnvironment : Option String} {args : List String} {s : Surroundings}
  {script : String}

/-- **A call that splits a script.** Its arguments are understood, it has settings, and the script
is what it reads. -/
def Splits (fromEnvironment : Option String) (args : List String) (s : Surroundings)
    (script : String) : Prop :=
  ∃ i source settings, Invocation.read fromEnvironment args = .ok i ∧ i.command = .split source
    ∧ i.options.settings s = .ok settings ∧ s.script? source = some script

/-- Nothing more is needed than the name of the command. -/
theorem splits_input (files : String → Option String) (script : String) :
    Splits none ["split"] ⟨files, some script⟩ script :=
  ⟨⟨{}, .split none⟩, none, {}, by decide +kernel, rfl, rfl, rfl⟩

theorem call_of_splits (h : Splits fromEnvironment args s script) :
    ∃ verbose log, call fromEnvironment args s
      = .finished verbose ⟨Script.statements script, log⟩ := by
  obtain ⟨i, source, settings, hread, hsplit, hsettings, hsource⟩ := h
  refine ⟨i.options.verbose, [.settled settings.dialect], ?_⟩
  apply finished_of_perform hread
  rw [perform_of_settings hsettings, hsplit, Command.perform, readScript_of_script? hsource]
  rfl

/-- **When the output of `split` can be split again.** Each text is the script of some call. What a
call prints for it is read as the same statements by another call exactly if none of them has a
semicolon before its terminator or a backslash right before it. -/
theorem split_output_comes_back_iff (script : String) :
    (∀ files, Splits none ["split"] ⟨files, some script⟩ script)
      ∧ ∀ fromEnvironment args s, Splits fromEnvironment args s script →
        ∃ verbose first, call fromEnvironment args s = .finished verbose first
          ∧ first.statements = Script.statements script
          ∧ ∀ fromEnvironment' args' s',
              Splits fromEnvironment' args' s' (call fromEnvironment args s).output →
              ∃ verbose' second, call fromEnvironment' args' s' = .finished verbose' second
                ∧ (second.statements = first.statements
                    ↔ ∀ t ∈ Script.statements script, Script.IsVerbatim t) := by
  refine ⟨fun files => splits_input files script, ?_⟩
  intro fromEnvironment args s hfirst
  obtain ⟨verbose, log, hcall⟩ := call_of_splits hfirst
  refine ⟨verbose, _, hcall, rfl, ?_⟩
  intro fromEnvironment' args' s' hsecond
  obtain ⟨verbose', log', hcall'⟩ := call_of_splits hsecond
  refine ⟨verbose', _, hcall', ?_⟩
  have hprinted : (call fromEnvironment args s).output
      = Script.printed (Script.statements script) := by
    rw [hcall]
    rfl
  rw [hprinted]
  exact Script.statements_printed_iff fun t => Script.isNormal_of_mem_statements

/-- A cut and a join. There are three statements again, and they are not the same. -/
theorem cut_and_joined_output_does_not_come_back :
    let first := call none ["split"] ⟨fun _ => none, some "a\\;b; c\\ ; d"⟩
    let printed : Surroundings := ⟨fun _ => some first.output, none⟩
    Splits none ["split"] ⟨fun _ => none, some "a\\;b; c\\ ; d"⟩ "a\\;b; c\\ ; d"
      ∧ Splits none ["split", "out.sql"] printed first.output
      ∧ Script.statements "a\\;b; c\\ ; d" = ["a;b;", "c\\;", "d;"]
      ∧ ∃ verbose second, call none ["split", "out.sql"] printed = .finished verbose second
          ∧ second.statements ≠ ["a;b;", "c\\;", "d;"] := by
  intro first printed
  obtain ⟨hinput, hback⟩ := split_output_comes_back_iff "a\\;b; c\\ ; d"
  have hfirst := hinput fun _ => none
  have hsecond : Splits none ["split", "out.sql"] printed first.output :=
    ⟨⟨{}, .split (some "out.sql")⟩, some "out.sql", {}, by decide +kernel, rfl, rfl, rfl⟩
  have hstatements : Script.statements "a\\;b; c\\ ; d" = ["a;b;", "c\\;", "d;"] := by
    decide +kernel
  obtain ⟨-, result, -, hresult, hagain⟩ := hback none ["split"] _ hfirst
  obtain ⟨verbose, second, hcall, hiff⟩ := hagain none ["split", "out.sql"] printed hsecond
  refine ⟨hfirst, hsecond, hstatements, verbose, second, hcall, ?_⟩
  rw [← hstatements, ← hresult, ne_eq, hiff, hstatements]
  decide +kernel

end SchemaSql.CommandLine
