/-
Reading the arguments of a call.

The arguments are read from left to right: options, the name of a command, and what
belongs to the command. An option is written out after two dashes, or as one letter
after one dash, where several letters may stand together. A value stands in the same
argument (behind `=`, or directly behind the letter) or is the next argument; only in
its own argument may it not start with a dash. Nothing may be given twice.

After the command an argument that starts with a dash is no operand, unless two dashes
alone came before it; a single dash alone is an ordinary word. Only `drop` has options of
its own.

Reading stops at the first thing that is not understood (`Stop.rejected`), and at a
request for the version (`Stop.version`), which is answered even if nothing sensible
follows it. The dialect of the environment stands in for the option and is not looked
at where the option is given.
-/
import SchemaSql.CommandLine.Invocation

set_option autoImplicit false

namespace SchemaSql.CommandLine

/-- Why a call is not carried out. -/
inductive Stop where
  /-- The arguments are not understood. -/
  | rejected
  /-- Only the version is asked for. -/
  | version
  deriving DecidableEq, Repr

/-- Whether an argument has the form of an option. -/
def isOptionLike (arg : String) : Bool :=
  match arg.toList with
  | '-' :: _ :: _ => true
  | _ => false

/-! ## Single options -/

/-- An option without a value. -/
inductive Flag where
  | verbose
  | sqliteDropColumn
  | version
  deriving DecidableEq, Repr

/-- An option with a value. -/
inductive Parameter where
  | dialect
  | config
  deriving DecidableEq, Repr

/-- One use of an option. The value of a parameter may be in the next argument. -/
inductive Use where
  | flag (flag : Flag)
  | parameter (parameter : Parameter) (value : Option String)
  | unknown
  deriving DecidableEq, Repr

/-- Turns a flag on, once. -/
def Options.setFlag (o : Options) : Flag → Except Stop Options
  | .verbose => if o.verbose then .error .rejected else .ok { o with verbose := true }
  | .sqliteDropColumn =>
    if o.sqliteDropColumn then .error .rejected else .ok { o with sqliteDropColumn := true }
  | .version => .error .version

/-- Gives a parameter its value, once. A dialect has to have a known name and a file a name at
all. -/
def Options.setValue (o : Options) (value : String) : Parameter → Except Stop Options
  | .dialect =>
    match o.dialect, Dialect.ofName? value with
    | none, some dialect => .ok { o with dialect := some dialect }
    | _, _ => .error .rejected
  | .config =>
    if o.config.isSome || value.isEmpty then .error .rejected
    else .ok { o with config := some value }

/-! ## Arguments that hold options -/

/-- The options behind a single dash, letter by letter. A parameter takes the rest of the argument
for its value, or the next argument if there is no rest. -/
def shortUses : List Char → List Use
  | [] => []
  | 'v' :: rest => .flag .verbose :: shortUses rest
  | 'V' :: rest => .flag .version :: shortUses rest
  | 'd' :: rest => [.parameter .dialect (attached rest)]
  | 'c' :: rest => [.parameter .config (attached rest)]
  | _ => [.unknown]
where
  /-- The value behind a letter: one equals sign in front of it is not part of it. -/
  attached : List Char → Option String
    | [] => none
    | '=' :: value => some (String.ofList value)
    | value => some (String.ofList value)

/-- The option behind two dashes. A flag takes no value. -/
def longUse (arg : List Char) : Use :=
  let name := String.ofList (arg.takeWhile (· ≠ '='))
  let value := match arg.dropWhile (· ≠ '=') with
    | [] => none
    | _ :: value => some (String.ofList value)
  if name = "dialect" then .parameter .dialect value
  else if name = "config" then .parameter .config value
  else if value.isSome then .unknown
  else if name = "verbose" then .flag .verbose
  else if name = "sqlite-drop-column" then .flag .sqliteDropColumn
  else if name = "version" then .flag .version
  else .unknown

/-- The options in an argument, or nothing if it is a word. -/
def uses? (arg : String) : Option (List Use) :=
  match arg.toList with
  -- Two dashes alone would end the options, but then no command could follow.
  | ['-', '-'] => some [.unknown]
  | '-' :: '-' :: rest => some [longUse rest]
  | '-' :: c :: rest => some (shortUses (c :: rest))
  | _ => none

/-- Applies the options of one argument. The parameter that comes
back still waits for its value. -/
def Options.applyUses (o : Options) : List Use → Except Stop (Options × Option Parameter)
  | [] => .ok (o, none)
  | .unknown :: _ => .error .rejected
  | .parameter parameter none :: _ => .ok (o, some parameter)
  | .parameter parameter (some value) :: rest =>
    match o.setValue value parameter with
    | .ok o => o.applyUses rest
    | .error stop => .error stop
  | .flag flag :: rest =>
    match o.setFlag flag with
    | .ok o => o.applyUses rest
    | .error stop => .error stop

/-! ## What belongs to a command -/

/-- The operands of a command without options. Two dashes end the search for options. -/
def operands? : List String → Option (List String)
  | [] => some []
  | arg :: rest =>
    if arg = "--" then some rest
    else if isOptionLike arg then none
    else (operands? rest).map (arg :: ·)

/-- The operands of `drop`, and whether its two options are given. -/
def dropOperands? : List String → Option (List String × Bool × Bool)
  | [] => some ([], false, false)
  | arg :: rest =>
    if arg = "--" then some (rest, false, false)
    else
      match dropOperands? rest with
      | none => none
      | some (names, ifExists, cascade) =>
        if arg = "--if-exists" then
          if ifExists then none else some (names, true, cascade)
        else if arg = "--cascade" then
          if cascade then none else some (names, ifExists, true)
        else if isOptionLike arg then none
        else some (arg :: names, ifExists, cascade)

/-- **A command** with what belongs to it. -/
def command? (name : String) (args : List String) : Option Command :=
  if name = "drop" then
    match dropOperands? args with
    | some (first :: more, ifExists, cascade) => some (.drop (first :: more) ifExists cascade)
    | _ => none
  else
    match name, operands? args with
    | "split", some [] => some (.split none)
    | "split", some [file] => if file.isEmpty then none else some (.split (some file))
    | "has-table", some [table] => some (.hasTable table)
    | "rename-table", some [old, new] => some (.renameTable old new)
    | "rename-column", some [table, old, new] => some (.renameColumn table old new)
    | "drop-column", some [table, column] => some (.dropColumn table column)
    | "raw", some [sql] => some (.raw sql)
    | _, _ => none

/-! ## The whole call -/

/-- Reads options up to the command, and the command. -/
def readArguments (o : Options) : List String → Except Stop Invocation
  | [] => .error .rejected
  | arg :: rest =>
    match uses? arg with
    | none =>
      match command? arg rest with
      | some command => .ok ⟨o, command⟩
      | none => .error .rejected
    | some uses =>
      match o.applyUses uses with
      | .error stop => .error stop
      | .ok (o, none) => readArguments o rest
      | .ok (o, some parameter) =>
        match rest with
        | [] => .error .rejected
        | value :: rest =>
          if isOptionLike value then .error .rejected
          else
            match o.setValue value parameter with
            | .error stop => .error stop
            | .ok o => readArguments o rest

/-- **Reading a call**: its arguments, and the dialect that the environment names, if it names
one. -/
def Invocation.read (fromEnvironment : Option String) (args : List String) :
    Except Stop Invocation :=
  match readArguments {} args with
  | .error stop => .error stop
  | .ok invocation =>
    match invocation.options.dialect, fromEnvironment with
    | some _, _ | none, none => .ok invocation
    | none, some name =>
      match invocation.options.setValue name .dialect with
      | .error stop => .error stop
      | .ok options => .ok { invocation with options }

end SchemaSql.CommandLine
