/-
Carrying out a call.

A call reads at most two files: its settings and its script. What they hold is given
from outside (`Surroundings`), so that the whole call is a function. A file that cannot
be read as text, for whatever reason, is one that is not there.

The settings come first, whatever the command is: a call with bad settings fails before
any script is looked at. The options override the file. Then the command is carried out
on an empty changeset, and its statements are printed, each on a line of its own.
-/
import SchemaSql.Changeset
import SchemaSql.CommandLine.Arguments
import SchemaSql.CommandLine.Log
import SchemaSql.Settings.Document

set_option autoImplicit false

namespace SchemaSql.CommandLine

/-- What a call can read. -/
structure Surroundings where
  /-- The text of a file, if there is one. -/
  file : String → Option String
  /-- The standard input, if it is text. -/
  input : Option String

/-- Why a call fails. -/
inductive Failure where
  | unreadableSettings (path : String)
  | badSettings (path : String) (flaw : Settings.Flaw)
  | unreadableScript (path : String)
  | unreadableInput
  /-- The operation itself fails. -/
  | operation (error : Error)
  deriving DecidableEq, Repr

/-- **A failure in words.** -/
def Failure.message : Failure → String
  | .unreadableSettings path => "Failed to read config file " ++ path
  | .badSettings path _ => "Failed to load config file " ++ path
  | .unreadableScript path => "Failed to read SQL file " ++ path
  | .unreadableInput => "Failed to read SQL from stdin"
  | .operation error => error.message

/-- What a call prints and what it tells on the side. -/
structure Result where
  statements : List String
  log : List LogEntry
  deriving DecidableEq, Repr

/-- The standard output of a call: its statements, each with a line end. -/
def Result.output (r : Result) : String := String.join (r.statements.map (· ++ "\n"))

/-! ## Settings -/

/-- The settings of the file, if the call names one. -/
def Options.fileSettings (o : Options) (s : Surroundings) : Except Failure Settings :=
  match o.config with
  | none => .ok {}
  | some path =>
    match s.file path with
    | none => .error (.unreadableSettings path)
    | some text =>
      match Settings.ofJson text with
      | .error flaw => .error (.badSettings path flaw)
      | .ok settings => .ok settings

/-- Settings with what the options say about them. -/
def Options.override (o : Options) (settings : Settings) : Settings where
  dialect := o.dialect.getD settings.dialect
  nativeDropColumn := if o.sqliteDropColumn then some true else settings.nativeDropColumn

/-- **The settings of a call**: the file's, overridden by the options. -/
def Options.settings (o : Options) (s : Surroundings) : Except Failure Settings :=
  match o.fileSettings s with
  | .error failure => .error failure
  | .ok settings => .ok (o.override settings)

/-! ## Commands -/

/-- The script of a `split` command. -/
def readScript (s : Surroundings) : Option String → Except Failure String
  | some path =>
    match s.file path with
    | some text => .ok text
    | none => .error (.unreadableScript path)
  | none =>
    match s.input with
    | some text => .ok text
    | none => .error .unreadableInput

/-- The result of an operation on an empty changeset. -/
def Result.ofChangeset (c : Changeset) : Result where
  statements := c.statements
  log := c.statements.map (.appended c.dialect)

/-- Dropping a column may have nothing to print; that is told. -/
def dropColumnResult (c : Changeset) (table column : String) : Result :=
  let result := Result.ofChangeset (c.dropColumn table column)
  if result.statements.isEmpty then
    { result with log := [.skipped c.dialect table column, .nothingToDo c.dialect] }
  else result

/-- **Carrying out a command** on an empty changeset. -/
def Command.perform (s : Surroundings) (c : Changeset) : Command → Except Failure Result
  | .split file =>
    match readScript s file with
    | .ok text => .ok ⟨Script.statements text, []⟩
    | .error failure => .error failure
  | .hasTable name => .ok ⟨[c.tableQuery name], []⟩
  | .drop names ifExists cascade =>
    match c.drop names ifExists cascade with
    | .ok c => .ok (.ofChangeset c)
    | .error e => .error (.operation e)
  | .renameTable old new => .ok (.ofChangeset (c.renameTable old new))
  | .renameColumn table old new => .ok (.ofChangeset (c.renameColumn table old new))
  | .dropColumn table column => .ok (dropColumnResult c table column)
  | .raw sql => .ok (.ofChangeset (c.raw sql))

/-! ## The whole call -/

/-- **Carrying out a call.** The log starts with the settings. -/
def Invocation.perform (s : Surroundings) (i : Invocation) : Except Failure Result :=
  match i.options.settings s with
  | .error failure => .error failure
  | .ok settings =>
    match i.command.perform s (Changeset.ofSettings settings) with
    | .error failure => .error failure
    | .ok result => .ok { result with log := .settled settings.dialect :: result.log }

/-- How a call ends. -/
inductive Outcome where
  | stopped (stop : Stop)
  | failed (failure : Failure)
  | finished (verbose : Bool) (result : Result)
  deriving DecidableEq, Repr

/-- **A call from its arguments to its end.** -/
def call (fromEnvironment : Option String) (args : List String) (s : Surroundings) : Outcome :=
  match Invocation.read fromEnvironment args with
  | .error stop => .stopped stop
  | .ok invocation =>
    match invocation.perform s with
    | .error failure => .failed failure
    | .ok result => .finished invocation.options.verbose result

/-- What is printed for the version. -/
def versionLine : String := "ddl-migrate 0.1.0\n"

namespace Outcome

/-- The exit code: two for arguments that are not understood, one for a failure. -/
def exitCode : Outcome → UInt32
  | .stopped .rejected => 2
  | .stopped .version => 0
  | .failed _ => 1
  | .finished _ _ => 0

/-- What goes to the standard output. -/
def output : Outcome → String
  | .stopped .version => versionLine
  | .finished _ result => result.output
  | _ => ""

/-- What goes to the standard error of a call that succeeds. -/
def log : Outcome → String
  | .finished verbose result => logText verbose result.log
  | _ => ""

end Outcome

end SchemaSql.CommandLine
