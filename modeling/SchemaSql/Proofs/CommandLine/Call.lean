/-
How a call ends and what it prints.

The command line adds no SQL of its own. Each command stands for something that the library
does with one changeset, or with a script, and this file gives the correspondence a name:
`Command.Yields` says which statements belong to a command, in terms of the operations of
`SchemaSql.Changeset.Operation`. The rest is about what comes before that and after it.

Before it come the settings. A file is the weakest source, an option the strongest, and the
environment stands between the two (`Options.inForce`). The program gets there in two
steps, since the environment is looked at when the arguments are read and the file when
the call is carried out; `settings_eq` joins them.

After it comes the log. The program notices a column that was not dropped by an empty list
of statements and not by the capabilities. For a column both are the same
(`succeeds_dropColumn`). And no command fails on its changeset, since dropping no tables at
all, the one operation that could, is ruled out by the arguments (`names_ne_nil_of_read`).
-/
import SchemaSql.CommandLine.Run
import SchemaSql.Proofs.Changeset.History
import SchemaSql.Proofs.Script.Printed

set_option autoImplicit false

namespace SchemaSql.CommandLine

variable {fromEnvironment : Option String} {args : List String} {i : Invocation} {o : Options}
  {s : Surroundings} {settings : Settings} {c : Changeset} {command : Command}

/-! ## What a call stands for -/

/-- **What the settings file holds.** Without a file everything is left open. -/
def Options.FileHolds (o : Options) (s : Surroundings) (settings : Settings) : Prop :=
  o.config = none ∧ settings = {}
    ∨ ∃ path text, o.config = some path ∧ s.file path = some text
        ∧ Settings.ofJson text = .ok settings

/-- **The settings in force.** The options override the file, and so does the environment where no
option names a dialect. -/
def Options.inForce (o : Options) (fromEnvironment : Option String) (settings : Settings) :
    Settings where
  dialect := (o.dialect.or (fromEnvironment.bind Dialect.ofName?)).getD settings.dialect
  nativeDropColumn := if o.sqliteDropColumn then some true else settings.nativeDropColumn

/-- The text to split: that of a file, or the standard input. -/
def Surroundings.script? (s : Surroundings) : Option String → Option String
  | some path => s.file path
  | none => s.input

/-- The operation on a changeset that a command asks for. -/
def Command.operation? : Command → Option Operation
  | .drop names ifExists cascade => some (.drop names ifExists cascade)
  | .renameTable old new => some (.renameTable old new)
  | .renameColumn table old new => some (.renameColumn table old new)
  | .dropColumn table column => some (.dropColumn table column)
  | .raw sql => some (.raw sql)
  | .split _ | .hasTable _ => none

/-- **The statements of a command**, as the library has them: those of a script, the reply to a
query, or what an operation adds to a changeset. -/
inductive Command.Yields (s : Surroundings) (c : Changeset) : Command → List String → Prop
  | script {source : Option String} {text : String} (hsource : s.script? source = some text) :
      Yields s c (.split source) (Script.statements text)
  | query {name sql : String} (hreply : c.reply (.tableQuery name) = .query sql) :
      Yields s c (.hasTable name) [sql]
  | added {command : Command} {op : Operation} {list : List String}
      (hop : command.operation? = some op)
      (happly : c.apply op = .ok { c with statements := c.statements ++ list }) :
      Yields s c command list

/-- Whether a command is to drop a column where that cannot be done. -/
def Command.isSkipped (capabilities : Capabilities) : Command → Bool
  | .dropColumn _ _ => !capabilities.nativeDropColumn
  | _ => false

/-! ## Arguments -/

/-- The command of a call was read from its name and what follows it. -/
theorem exists_command?_of_readArguments (h : readArguments o args = .ok i) :
    ∃ name rest, command? name rest = some i.command := by
  fun_induction readArguments o args with
  | case1 => cases h
  | case2 o arg rest _ command hcommand =>
    cases h
    exact ⟨arg, rest, hcommand⟩
  -- An argument with options in it, and one whose last option takes the next for its value.
  | case5 o arg rest uses _ o' _ ih => exact ih h
  | case9 o arg uses _ o' parameter _ value rest _ o'' _ ih => exact ih h
  | _ => cases h

/-- A `drop` command names a table. -/
theorem names_ne_nil_of_command? {name : String} {names rest : List String}
    {ifExists cascade : Bool} (h : command? name rest = some (.drop names ifExists cascade)) :
    names ≠ [] := by
  unfold command? at h
  split at h
  · split at h
    · cases h
      exact List.cons_ne_nil _ _
    · cases h
  · split at h <;> simp at h

/-- A dialect is accepted where it is the first one and has a known name. -/
theorem exists_ofName?_of_setValue {o' : Options} {name : String}
    (h : o.setValue name .dialect = .ok o') :
    ∃ d, Dialect.ofName? name = some d ∧ o' = { o with dialect := some d } := by
  unfold Options.setValue at h
  dsimp only at h
  split at h
  next d _ hname =>
    cases h
    exact ⟨d, hname, rfl⟩
  next => cases h

/-- **Reading a call.** The arguments are understood by themselves, and where they name no dialect,
that of the environment is taken, if it names one. It has to be the name of a dialect then. -/
theorem exists_readArguments_of_read (h : Invocation.read fromEnvironment args = .ok i) :
    ∃ o, readArguments {} args = .ok ⟨o, i.command⟩
      ∧ i.options = { o with dialect := o.dialect.or (fromEnvironment.bind Dialect.ofName?) }
      ∧ (o.dialect = none → ∀ name, fromEnvironment = some name →
          ∃ d, Dialect.ofName? name = some d) := by
  unfold Invocation.read at h
  split at h
  · cases h
  next read hread =>
  split at h
  next d hdialect =>
    cases h
    refine ⟨i.options, hread, ?_, ?_⟩
    · rw [hdialect, Option.some_or, ← hdialect]
    · intro hnone
      rw [hdialect] at hnone
      cases hnone
  next hdialect =>
    cases h
    refine ⟨i.options, hread, ?_, ?_⟩
    · rw [hdialect, Option.bind_none, Option.or_none, ← hdialect]
    · intro _ name hname
      cases hname
  next name hdialect =>
    -- The environment is asked.
    split at h
    · cases h
    next options hset =>
    cases h
    obtain ⟨d, hname, rfl⟩ := exists_ofName?_of_setValue hset
    refine ⟨read.options, hread, ?_, ?_⟩
    · rw [hdialect, Option.bind_some, hname, Option.none_or]
    · rintro - _ ⟨⟩
      exact ⟨d, hname⟩

theorem names_ne_nil_of_read (h : Invocation.read fromEnvironment args = .ok i)
    {names : List String} {ifExists cascade : Bool}
    (hdrop : i.command = .drop names ifExists cascade) : names ≠ [] := by
  obtain ⟨o, hread, -, -⟩ := exists_readArguments_of_read h
  obtain ⟨name, rest, hcommand⟩ := exists_command?_of_readArguments hread
  exact names_ne_nil_of_command? (hcommand.trans (congrArg some hdrop))

/-! ## Settings -/

theorem fileSettings_eq_ok_iff : o.fileSettings s = .ok settings ↔ o.FileHolds s settings := by
  unfold Options.fileSettings Options.FileHolds
  cases o.config with
  | none => simp [eq_comm]
  | some path =>
    cases hfile : s.file path with
    | none => simp [hfile]
    | some text => cases hread : Settings.ofJson text <;> simp [hfile, hread]

/-- Why there are no settings. -/
theorem fileSettings_eq_error {failure : Failure} (h : o.fileSettings s = .error failure) :
    ∃ path, o.config = some path
      ∧ (s.file path = none ∧ failure = .unreadableSettings path
        ∨ ∃ text flaw, s.file path = some text ∧ Settings.ofJson text = .error flaw
            ∧ failure = .badSettings path flaw) := by
  unfold Options.fileSettings at h
  cases hconfig : o.config with
  | none =>
    rw [hconfig] at h
    cases h
  | some path =>
    refine ⟨path, rfl, ?_⟩
    simp only [hconfig] at h
    cases hfile : s.file path with
    | none =>
      rw [hfile] at h
      cases h
      exact .inl ⟨rfl, rfl⟩
    | some text =>
      simp only [hfile] at h
      cases hread : Settings.ofJson text with
      | error flaw =>
        rw [hread] at h
        cases h
        exact .inr ⟨text, flaw, rfl, hread, rfl⟩
      | ok settings =>
        rw [hread] at h
        cases h

/-- **The settings of a call** are those of its file with all that overrides them. -/
theorem settings_eq
    (h : i.options = { o with dialect := o.dialect.or (fromEnvironment.bind Dialect.ofName?) }) :
    i.options.settings s = (o.fileSettings s).map (o.inForce fromEnvironment) := by
  have hfile : i.options.fileSettings s = o.fileSettings s := by
    rw [h]
    rfl
  unfold Options.settings
  rw [hfile]
  cases o.fileSettings s with
  | error failure => rfl
  | ok settings =>
    rw [h]
    rfl

/-! ## Commands -/

/-- **A command that is carried out.** It has the statements that belong to it, and everybody is
told about a column that was not dropped and about nothing else. -/
def Command.Succeeds (s : Surroundings) (c : Changeset) (command : Command) : Prop :=
  ∃ list details, command.Yields s c list ∧ (∀ e ∈ details, e.isDetail = true)
    ∧ command.perform s c = .ok
      ⟨list, details ++ if command.isSkipped c.capabilities then [.nothingToDo c.dialect] else []⟩

theorem readScript_of_script? {source : Option String} {text : String}
    (h : s.script? source = some text) : readScript s source = .ok text := by
  unfold Surroundings.script? at h
  rcases source with _ | path
  · simp only [readScript, h]
  · simp only [readScript, h]

theorem readScript_of_script?_eq_none {source : Option String} (h : s.script? source = none) :
    readScript s source = .error (source.elim .unreadableInput .unreadableScript) := by
  unfold Surroundings.script? at h
  rcases source with _ | path
  · simp only [readScript, h, Option.elim]
  · simp only [readScript, h, Option.elim]

theorem succeeds_split {source : Option String} {text : String}
    (h : s.script? source = some text) : (Command.split source).Succeeds s c := by
  refine ⟨Script.statements text, [], .script h, by simp, ?_⟩
  simp only [Command.perform, readScript_of_script? h]
  rfl

/-- The result of an operation on a changeset that was empty. -/
theorem ofChangeset_append (hempty : c.statements = []) (list : List String) :
    Result.ofChangeset (c.append list) = ⟨list, list.map (.appended c.dialect)⟩ := by
  rw [Result.ofChangeset, Changeset.statements_append, hempty, List.nil_append,
    Changeset.dialect_append]

/-- An operation on an empty changeset has the statements that it adds, and each of them is logged
as a detail. -/
theorem succeeds_added {op : Operation} {list : List String} (hempty : c.statements = [])
    (hop : command.operation? = some op) (happly : c.apply op = .ok (c.append list))
    (hskip : command.isSkipped c.capabilities = false)
    (hperform : command.perform s c = .ok (.ofChangeset (c.append list))) :
    command.Succeeds s c := by
  refine ⟨list, list.map (.appended c.dialect), .added hop happly, ?_, ?_⟩
  · intro e he
    obtain ⟨statement, -, rfl⟩ := List.mem_map.mp he
    rfl
  · rw [hperform, ofChangeset_append hempty, hskip, if_neg (by decide), List.append_nil]

/-- Dropping a column has a statement exactly where it can be done, so that the empty list that the
program looks for tells what the capabilities say. -/
theorem succeeds_dropColumn (hempty : c.statements = []) (table column : String) :
    (Command.dropColumn table column).Succeeds s c := by
  by_cases hnative : c.capabilities.nativeDropColumn = true
  · have hop : c.dropColumn table column
        = c.append [c.dialect.dropColumnStatement table column] := by
      rw [Changeset.dropColumn, Dialect.dropColumn?, if_pos hnative, Option.toList_some]
    refine succeeds_added hempty rfl (congrArg Except.ok hop) ?_ ?_
    · simp only [Command.isSkipped, hnative, Bool.not_true]
    · simp only [Command.perform, dropColumnResult, hop, ofChangeset_append hempty,
        List.isEmpty_cons, Bool.false_eq_true, if_false]
  · have hop : c.dropColumn table column = c.append [] := by
      rw [Changeset.dropColumn, Dialect.dropColumn?, if_neg hnative, Option.toList_none]
    refine ⟨[], [.skipped c.dialect table column], .added rfl (congrArg Except.ok hop), ?_, ?_⟩
    · intro e he
      rw [List.mem_singleton.mp he]
      rfl
    · simp only [Command.perform, dropColumnResult, hop, ofChangeset_append hempty,
        List.isEmpty_nil, if_true, Command.isSkipped, hnative, Bool.not_false,
        List.singleton_append]

/-- **Carrying out a command** on an empty changeset. All of them succeed, but for the one that may
have nothing to read. -/
theorem succeeds_of_script (hempty : c.statements = [])
    (hdrop : ∀ names ifExists cascade, command = .drop names ifExists cascade → names ≠ [])
    (hscript : ∀ source, command = .split source → s.script? source ≠ none) :
    command.Succeeds s c := by
  cases command with
  | split source =>
    obtain ⟨text, htext⟩ := Option.ne_none_iff_exists'.mp (hscript source rfl)
    exact succeeds_split htext
  | hasTable name => exact ⟨[c.tableQuery name], [], .query rfl, by simp, rfl⟩
  | drop names ifExists cascade =>
    have hop : c.apply (.drop names ifExists cascade)
        = .ok (c.append [dropTablesStatement names ifExists cascade]) := by
      have hnames : names.isEmpty = false := by simpa using hdrop names ifExists cascade rfl
      simp only [Changeset.apply, Changeset.drop, hnames, Bool.false_eq_true, if_false]
    refine succeeds_added hempty rfl hop rfl ?_
    rw [Changeset.apply] at hop
    simp only [Command.perform, hop]
  | dropColumn table column => exact succeeds_dropColumn hempty table column
  | renameTable old new => exact succeeds_added hempty rfl rfl rfl rfl
  | renameColumn table old new => exact succeeds_added hempty rfl rfl rfl rfl
  | raw sql => exact succeeds_added hempty rfl rfl rfl rfl

/-! ## The whole call -/

theorem failed_of_perform {failure : Failure} (h : Invocation.read fromEnvironment args = .ok i)
    (hperform : i.perform s = .error failure) : call fromEnvironment args s = .failed failure := by
  simp only [call, h, hperform]

theorem finished_of_perform {result : Result} (h : Invocation.read fromEnvironment args = .ok i)
    (hperform : i.perform s = .ok result) :
    call fromEnvironment args s = .finished i.options.verbose result := by
  simp only [call, h, hperform]

/-- A call with settings carries out its command, and its log starts with them. -/
theorem perform_of_settings (h : i.options.settings s = .ok settings) :
    i.perform s = (i.command.perform s (.ofSettings settings)).map fun result =>
      { result with log := .settled settings.dialect :: result.log } := by
  cases hcommand : i.command.perform s (.ofSettings settings) <;>
    simp only [Invocation.perform, h, hcommand, Except.map]

/-- What everybody is told stands behind the details. -/
theorem logText_append_nothingToDo (verbose skipped : Bool) (details : List LogEntry)
    (d : Dialect) :
    logText verbose (details ++ if skipped then [.nothingToDo d] else [])
      = logText verbose details
        ++ if skipped then
            " INFO DROP COLUMN is disabled for " ++ d.name ++ "; nothing to do.\n"
          else "" := by
  have hline : logText verbose [.nothingToDo d]
      = " INFO DROP COLUMN is disabled for " ++ d.name ++ "; nothing to do.\n" := by
    cases verbose <;> cases d <;> decide +kernel
  by_cases hskipped : skipped = true
  · rw [if_pos hskipped, if_pos hskipped, ← hline]
    simp only [logText, List.filter_append, List.map_append, String.join_append]
  · rw [if_neg hskipped, if_neg hskipped, List.append_nil, String.append_empty]

/-- Without settings a call fails, whatever its command is. -/
theorem call_eq_failed_of_settings {failure : Failure}
    (h : Invocation.read fromEnvironment args = .ok i)
    (hsettings : i.options.settings s = .error failure) :
    call fromEnvironment args s = .failed failure := by
  apply failed_of_perform h
  simp only [Invocation.perform, hsettings]

/-- So does a call whose script is missing. -/
theorem call_eq_failed_of_script {source : Option String}
    (h : Invocation.read fromEnvironment args = .ok i)
    (hsettings : i.options.settings s = .ok settings) (hsplit : i.command = .split source)
    (hnone : s.script? source = none) :
    call fromEnvironment args s
      = .failed (source.elim .unreadableInput .unreadableScript) := by
  apply failed_of_perform h
  rw [perform_of_settings hsettings, hsplit, Command.perform, readScript_of_script?_eq_none hnone]
  rfl

/-- All other calls are carried out. -/
theorem exists_call_eq_finished (h : Invocation.read fromEnvironment args = .ok i)
    (hsettings : i.options.settings s = .ok settings)
    (hcommand : i.command.Succeeds s (.ofSettings settings)) :
    ∃ list details, i.command.Yields s (.ofSettings settings) list
      ∧ (∀ e ∈ details, e.isDetail = true)
      ∧ call fromEnvironment args s = .finished i.options.verbose
          ⟨list, details ++ if i.command.isSkipped settings.capabilities then
              [.nothingToDo settings.dialect] else []⟩ := by
  obtain ⟨list, details, hyields, hdetails, hperform⟩ := hcommand
  refine ⟨list, .settled settings.dialect :: details, hyields, ?_, ?_⟩
  · intro e he
    rcases List.mem_cons.mp he with rfl | he
    · rfl
    · exact hdetails e he
  · apply finished_of_perform h
    rw [perform_of_settings hsettings, hperform]
    rfl

/-- **A call prints what the library says.** The arguments were understood, and the environment
names a dialect if it is asked for one. Then there are three ways for the call to end. It prints the
statements of its command, for the settings in force, and tells everybody about a column that is
not dropped. Or there are no settings, and it fails whatever the command is. Or there are, and the
script of its command is missing. -/
theorem accepted_call_prints_statements (h : Invocation.read fromEnvironment args = .ok i)
    (s : Surroundings) :
    let outcome := call fromEnvironment args s
    ∃ o, readArguments {} args = .ok ⟨o, i.command⟩
      ∧ (o.dialect = none → ∀ name, fromEnvironment = some name →
          ∃ d, Dialect.ofName? name = some d)
      -- Everything that is needed can be read.
      ∧ ((∃ file list details, o.FileHolds s file ∧
            let settings := o.inForce fromEnvironment file
            i.command.Yields s (Changeset.ofSettings settings) list
              ∧ outcome.exitCode = 0 ∧ outcome.output = Script.printed list
              ∧ (∀ e ∈ details, e.isDetail = true)
              ∧ outcome.log = logText o.verbose details
                ++ if i.command.isSkipped settings.capabilities then
                    " INFO DROP COLUMN is disabled for " ++ settings.dialect.name
                      ++ "; nothing to do.\n"
                  else "")
        -- The file of the settings cannot be read, or holds none.
        ∨ (∃ path failure, o.config = some path ∧ outcome = .failed failure
            ∧ outcome.exitCode = 1 ∧ outcome.output = ""
            ∧ (s.file path = none ∧ failure = .unreadableSettings path
              ∨ ∃ text flaw, s.file path = some text ∧ Settings.ofJson text = .error flaw
                  ∧ failure = .badSettings path flaw))
        -- There are settings, but no script.
        ∨ ∃ file source, o.FileHolds s file ∧ i.command = .split source
            ∧ s.script? source = none
            ∧ outcome = .failed (source.elim .unreadableInput .unreadableScript)
            ∧ outcome.exitCode = 1 ∧ outcome.output = "") := by
  intro outcome
  obtain ⟨o, hread, hoptions, hnamed⟩ := exists_readArguments_of_read h
  have hsettings := settings_eq (s := s) hoptions
  refine ⟨o, hread, hnamed, ?_⟩
  cases hfile : o.fileSettings s with
  | error failure =>
    right; left
    obtain ⟨path, hconfig, hwhy⟩ := fileSettings_eq_error hfile
    have houtcome : outcome = .failed failure := by
      apply call_eq_failed_of_settings h
      rw [hsettings, hfile, Except.map]
    refine ⟨path, failure, hconfig, houtcome, ?_, ?_, hwhy⟩ <;> rw [houtcome] <;> rfl
  | ok file =>
    have hholds : o.FileHolds s file := fileSettings_eq_ok_iff.mp hfile
    rw [hfile, Except.map] at hsettings
    by_cases hscript : ∀ source, i.command = .split source → s.script? source ≠ none
    · left
      have hcommand := succeeds_of_script (c := .ofSettings (o.inForce fromEnvironment file)) rfl
        (fun _ _ _ => names_ne_nil_of_read h) hscript
      obtain ⟨list, details, hyields, hdetails, houtcome⟩ :=
        exists_call_eq_finished h hsettings hcommand
      refine ⟨file, list, details, hholds, hyields, congrArg Outcome.exitCode houtcome,
        congrArg Outcome.output houtcome, hdetails, ?_⟩
      have hverbose : i.options.verbose = o.verbose := by rw [hoptions]
      rw [← logText_append_nothingToDo, ← hverbose]
      exact congrArg Outcome.log houtcome
    · right; right
      push Not at hscript
      obtain ⟨source, hsplit, hnone⟩ := hscript
      have houtcome := call_eq_failed_of_script h hsettings hsplit hnone
      exact ⟨file, source, hholds, hsplit, hnone, houtcome, congrArg Outcome.exitCode houtcome,
        congrArg Outcome.output houtcome⟩

/-- A settings file that names a dialect. -/
def mysqlFile : Surroundings :=
  ⟨fun path => if path = "ddl.json" then some "[\"mysql\"]" else none, none⟩

theorem overridden_call_prints_statements :
    let args := ["-c", "ddl.json", "drop-column", "users", "age"]
    let command := Command.dropColumn "users" "age"
    let outcome := call (some "SQLite") args mysqlFile
    Invocation.read (some "SQLite") args
        = .ok ⟨{ dialect := some .sqlite, config := some "ddl.json" }, command⟩
      ∧ (∃ list, command.Yields mysqlFile (.ofSettings { dialect := .sqlite }) list
          ∧ outcome.output = Script.printed list)
      ∧ outcome.exitCode = 0 ∧ outcome.output = ""
      ∧ outcome.log = " INFO DROP COLUMN is disabled for sqlite; nothing to do.\n" := by
  intro args command outcome
  have hread : Invocation.read (some "SQLite") args
      = .ok ⟨{ dialect := some .sqlite, config := some "ddl.json" }, command⟩ := by decide +kernel
  have hcode : outcome.exitCode = 0 := by decide +kernel
  refine ⟨hread, ?_, hcode, by decide +kernel, by decide +kernel⟩
  obtain ⟨o, ho, -, hends⟩ := accepted_call_prints_statements hread mysqlFile
  have hoptions : readArguments {} args = .ok ⟨{ config := some "ddl.json" }, command⟩ := by
    decide +kernel
  obtain rfl : { config := some "ddl.json" } = o :=
    congrArg Invocation.options (Except.ok.inj (hoptions.symm.trans ho))
  rcases hends with ⟨file, list, -, hfile, hyields, -, houtput, -⟩ | ⟨_, _, -, -, hone, -⟩
    | ⟨_, _, -, -, -, -, hone, -⟩
  · have hmysql : Options.fileSettings { config := some "ddl.json" } mysqlFile
        = .ok { dialect := .mysql } := by decide +kernel
    obtain rfl : { dialect := .mysql } = file :=
      Except.ok.inj (hmysql.symm.trans (fileSettings_eq_ok_iff.mpr hfile))
    have hforce : Options.inForce { config := some "ddl.json" } (some "SQLite")
        { dialect := .mysql } = { dialect := .sqlite } := by decide +kernel
    exact ⟨list, hforce ▸ hyields, houtput⟩
  · exact absurd (hcode.symm.trans hone) (by decide)
  · exact absurd (hcode.symm.trans hone) (by decide)

end SchemaSql.CommandLine
