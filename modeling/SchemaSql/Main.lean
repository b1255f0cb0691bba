/-
The program: it reads what a call may need, carries the call out and prints how it ended.
-/
import SchemaSql.CommandLine.Run

set_option autoImplicit false

namespace SchemaSql.CommandLine

/-- The text that an action yields, or nothing if it fails. -/
def textOf? (action : IO String) : IO (Option String) := do
  try
    return some (← action)
  catch _ =>
    return none

/-- The files that a call names. -/
def namedFiles (i : Invocation) : List String :=
  let script := match i.command with
    | .split (some file) => [file]
    | _ => []
  i.options.config.toList ++ script

/-- What a call can read: the files that it names, and the standard input where it reads it. -/
def surroundings (i : Invocation) : IO Surroundings := do
  let files ← (namedFiles i).mapM fun (path : String) => do
    return (path, ← textOf? (IO.FS.readFile path))
  let input ← match i.command with
    | .split none => textOf? do (← IO.getStdin).readToEnd
    | _ => pure none
  return ⟨fun path => (files.lookup path).join, input⟩

end SchemaSql.CommandLine

open SchemaSql.CommandLine in
/-- Carries out a call and ends with its exit code. -/
def main (args : List String) : IO UInt32 := do
  let fromEnvironment ← IO.getEnv "DDL_DIALECT"
  -- What cannot be carried out reads nothing.
  let available ← match Invocation.read fromEnvironment args with
    | .ok i => surroundings i
    | .error _ => pure ⟨fun _ => none, none⟩
  let outcome := call fromEnvironment args available
  IO.print outcome.output
  IO.eprint outcome.log
  match outcome with
  | .failed failure => IO.eprintln ("Error: " ++ failure.message)
  | .stopped .rejected => IO.eprintln "error: the arguments are not understood"
  | _ => pure ()
  return outcome.exitCode
