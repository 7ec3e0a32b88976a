import CodeMigration.CommandLine

/-!
# CodeMigration.CommandLine.Reader

Reads command lines. Arguments stand at two levels, before and behind the command.
The value of an option and the words without dashes are held back and looked at when
the next argument comes, or when the level ends; the level behind the command ends
first. So of several faults the one that is looked at first is reported.
-/

namespace CodeMigration.CommandLine

/-! ### Arguments and levels -/

/-- An argument. -/
inductive Argument
  /-- Ask for help. -/
  | help
  /-- Ask for the version. -/
  | version
  /-- Tell more about the work. -/
  | verbose
  /-- The file of settings. -/
  | config
  /-- The directory of the project. -/
  | directory
  /-- Write nothing. -/
  | dryRun
  /-- Make no copies. -/
  | noBackup
  /-- Remove copies once a file is changed. -/
  | transientBackup
  /-- Show differences. -/
  | diff
  /-- Do not ask. -/
  | yes
  /-- The form of the output. -/
  | format
  /-- The file or directory for the output. -/
  | output
  /-- Overwrite settings. -/
  | force
  /-- The name of the migration. -/
  | migration
  /-- The files. -/
  | paths
  deriving DecidableEq, Repr

namespace Argument

/-- The name behind two dashes. Words without dashes have none. -/
def long? : Argument → Option String
  | help => some "help"
  | version => some "version"
  | verbose => some "verbose"
  | config => some "config"
  | directory => some "directory"
  | dryRun => some "dry-run"
  | noBackup => some "no-backup"
  | transientBackup => some "transient-backup"
  | diff => some "diff"
  | yes => some "yes"
  | format => some "format"
  | output => some "output"
  | force => some "force"
  | migration => none
  | paths => none

/-- The letter behind one dash. -/
def short? : Argument → Option Char
  | help => some 'h'
  | version => some 'V'
  | verbose => some 'v'
  | config => some 'c'
  | directory => some 'C'
  | yes => some 'y'
  | format => some 'f'
  | output => some 'o'
  | force => some 'f'
  | _ => none

/-- Does the argument have a value? -/
def takesValue : Argument → Bool
  | config | directory | format | output | migration | paths => true
  | _ => false

/-- May the argument be given more than once? -/
def repeats : Argument → Bool
  | verbose | paths => true
  | _ => false

/-- Is the value admitted? Paths must not be empty. -/
def admits (argument : Argument) (value : String) : Bool :=
  match argument with
  | config | directory | output | paths => value != ""
  | format => (OutputFormat.named? value).isSome
  | _ => true

end Argument

/-- A level of arguments: before the command, or behind a certain one. -/
inductive Level
  /-- Before the command. -/
  | top
  /-- Behind the command that takes a migration over files. -/
  | run
  /-- Behind the command that lists the migrations. -/
  | list
  /-- Behind the command that writes settings. -/
  | init
  /-- Behind the command that writes the manual page. -/
  | manual
  deriving DecidableEq, Repr

namespace Level

/-- The word for the command. -/
def word? : Level → Option String
  | top => none
  | run => some "run"
  | list => some "list"
  | init => some "init"
  | manual => some "generate-man"

/-- The command that a word stands for. -/
def ofWord? (word : String) : Option Level :=
  [run, list, init, manual].find? fun level => level.word? == some word

/-- The arguments with dashes at the level. -/
def options (level : Level) : List Argument :=
  [.help, .version, .verbose, .config, .directory] ++
    match level with
    | top => []
    | run => [.dryRun, .noBackup, .transientBackup, .diff, .yes, .format, .output]
    | list => [.format]
    | init => [.force]
    | manual => [.output]

/-- The name and the version of the program, with the command at a level behind one. -/
def versionText (level : Level) : String :=
  programName ++ (level.word?.map ("-" ++ ·)).getD "" ++ " " ++ programVersion ++ "\n"

end Level

/-- The word that asks for help on commands. -/
def helpWord : String := "help"

/-- Is the word one that can stand for a command? -/
def isCommandWord (word : String) : Bool := word == helpWord || (Level.ofWord? word).isSome

/-! ### Reading one level -/

/-- What has been read at a level. -/
structure Reading where
  /-- The arguments looked at, each with its value; flags have an empty one. -/
  given : List (Argument × String) := []
  /-- An argument held back, with its values so far. -/
  pending : Option (Argument × List String) := none
  /-- Are only words without dashes to follow? -/
  wordsOnly : Bool := false
  deriving DecidableEq, Repr

namespace Reading

/-- Is the argument given? -/
def has (reading : Reading) (argument : Argument) : Bool :=
  reading.given.any fun entry => entry.1 == argument

/-- Is the argument given or held back? -/
def holds (reading : Reading) (argument : Argument) : Bool :=
  reading.has argument || reading.pending.any fun entry => entry.1 == argument

/-- Is an option waiting for its value? -/
def isWaiting (reading : Reading) : Bool := reading.pending.any fun entry => entry.2.isEmpty

/-- The values of an argument, in order. -/
def values (reading : Reading) (argument : Argument) : List String :=
  reading.given.filterMap fun entry => if entry.1 = argument then some entry.2 else none

/-- The value of an argument. -/
def value? (reading : Reading) (argument : Argument) : Option String :=
  (reading.values argument).head?

/-- Looks at an argument with its values. -/
def accept (level : Level) (argument : Argument) (values : List String) (reading : Reading) :
    Except UsageError Reading :=
  if argument.takesValue && values.isEmpty then .error .badValue
  else if argument = .help then .error .helpWanted
  else if argument = .version then .error (.versionWanted level.versionText)
  else if reading.has argument && !argument.repeats then .error .conflict
  else if !values.all argument.admits then .error .badValue
  else
    let entries := if argument.takesValue then values else [""]
    .ok { reading with given := reading.given ++ entries.map (argument, ·) }

/-- Looks at the argument held back. -/
def settle (level : Level) (reading : Reading) : Except UsageError Reading :=
  match reading.pending with
  | none => .ok reading
  | some (argument, values) => accept level argument values { reading with pending := none }

/-- Looks at the argument held back and then at another one. -/
def take (level : Level) (argument : Argument) (values : List String) (reading : Reading) :
    Except UsageError Reading := do
  accept level argument values (← settle level reading)

/-- Looks at the argument held back and holds back another one. -/
def hold (level : Level) (argument : Argument) (values : List String) (reading : Reading) :
    Except UsageError Reading := do
  return { ← settle level reading with pending := some (argument, values) }

/-- Reads an argument behind two dashes. -/
def readLong (level : Level) (written : Text) (reading : Reading) : Except UsageError Reading :=
  let name := String.ofList (written.takeWhile (· != '='))
  let attached := written.dropWhile (· != '=')
  match level.options.find? fun argument => argument.long? == some name with
  | none => .error .unknownArgument
  | some argument =>
    match argument.takesValue, attached with
    | true, [] => hold level argument [] reading
    | true, _ :: value => take level argument [String.ofList value] reading
    | false, [] => take level argument [] reading
    | false, _ :: _ => .error .tooManyValues

/-- Reads the letters behind one dash. The first one that takes a value has it behind
itself, perhaps after an equals sign, or in the next word. -/
def readShort (level : Level) : Text → Reading → Except UsageError Reading
  | [], reading => .ok reading
  | letter :: rest, reading =>
    match level.options.find? fun argument => argument.short? == some letter with
    | none => .error .unknownArgument
    | some argument =>
      if argument.takesValue then
        match rest with
        | [] => hold level argument [] reading
        | '=' :: value => take level argument [String.ofList value] reading
        | value => take level argument [String.ofList value] reading
      else
        match take level argument [] reading with
        | .error fault => .error fault
        | .ok reading => readShort level rest reading

/-- Reads a word without dashes that is no value of an option. -/
def readWord (level : Level) (word : String) (reading : Reading) : Except UsageError Reading :=
  match level with
  | .run =>
    if !reading.holds .migration then hold level .migration [word] reading
    else
      match reading.pending with
      | some (.paths, words) => .ok { reading with pending := some (.paths, words ++ [word]) }
      | _ => hold level .paths [word] reading
  | .top =>
    -- Behind the two dashes the word for a command is not taken for one.
    if reading.wordsOnly && isCommandWord word then .error .unknownArgument
    else .error .unknownCommand
  | _ => .error .unknownArgument

/-- What asking for help on some commands leads to. -/
def helpOn : List String → UsageError
  | [] => .helpWanted
  | [word] => if isCommandWord word then .helpWanted else .unknownCommand
  | _ => .unknownCommand

/-- Reads the words of a level. At the top a command ends the level; it is given back
with the words behind it. -/
def readLevel (level : Level) :
    List String → Reading → Except UsageError (Reading × Option (Level × List String))
  | [], reading => .ok (reading, none)
  | word :: rest, reading =>
    let continue_ (next : Except UsageError Reading) :=
      match next with
      | .error fault => .error fault
      | .ok reading => readLevel level rest reading
    if reading.wordsOnly then continue_ (readWord level word reading)
    else if level = .top && !reading.isWaiting && isCommandWord word then
      match Level.ofWord? word with
      | some command => .ok (reading, some (command, rest))
      | none => .error (helpOn rest)
    else
      match word.toList with
      | ['-', '-'] => continue_ (.ok { reading with wordsOnly := true })
      | ['-'] => continue_ (plainWord word reading)
      | '-' :: '-' :: written => continue_ (readLong level written reading)
      | '-' :: letters => continue_ (readShort level letters reading)
      | _ => continue_ (plainWord word reading)
where
  /-- Reads a word without dashes, which may be the value of an option. -/
  plainWord (word : String) (reading : Reading) : Except UsageError Reading :=
    match reading.pending with
    | some (argument, []) => .ok { reading with pending := some (argument, [word]) }
    | _ => readWord level word reading

/-- Ends a level: looks at the argument held back, and at the file of settings that the
environment names if the level names none. -/
def finish (level : Level) (environment : Option String) (reading : Reading) :
    Except UsageError Reading := do
  let reading ← settle level reading
  match environment with
  | some "" => if reading.has .config then return reading else .error .badValue
  | _ => return reading

end Reading

/-! ### Whole command lines -/

/-- The form of output that is asked for. -/
def formatOf (reading : Reading) : OutputFormat :=
  ((reading.value? .format).bind OutputFormat.named?).getD .terminal

/-- The command of a level. -/
def commandOf (level : Level) (reading : Reading) : Except UsageError Command :=
  match level with
  | .top => .error .commandMissing
  | .run =>
    if reading.has .noBackup && reading.has .transientBackup then .error .conflict
    else
      match reading.value? .migration with
      | none => .error .argumentMissing
      | some migration =>
        .ok (.run
          { migration := migration, paths := (reading.values .paths).map Path.mk
            dryRun := reading.has .dryRun, noBackup := reading.has .noBackup
            transientBackup := reading.has .transientBackup, showDiff := reading.has .diff
            assumeYes := reading.has .yes, format := formatOf reading
            output := (reading.value? .output).map Path.mk })
  | .list => .ok (.list (formatOf reading))
  | .init => .ok (.init (reading.has .force))
  | .manual => .ok (.manual ⟨(reading.value? .output).getD "."⟩)

/-- The greatest verbosity. -/
def maxVerbosity : Nat := 255

/-- What the two levels ask for together. What stands behind the command counts more
than what stands before it, and the environment counts least. -/
def invocationOf (top inner : Reading) (environment : Option String) (command : Command) :
    Invocation :=
  let verbosity (reading : Reading) : Nat := min (reading.values .verbose).length maxVerbosity
  { verbosity := if inner.has .verbose then verbosity inner else verbosity top
    config := (inner.value? .config <|> top.value? .config <|> environment).map Path.mk
    directory := (inner.value? .directory <|> top.value? .directory).map Path.mk
    command := command }

/-- Reads the words of a command line behind the name of the program. -/
def read (environment : Option String) (words : List String) : Except UsageError Invocation := do
  let (top, command) ← Reading.readLevel .top words {}
  match command with
  | none =>
    let top ← top.finish .top environment
    if top.given.isEmpty && environment.isNone then .error .nothingGiven
    else .error .commandMissing
  | some (level, words) =>
    let (inner, _) ← Reading.readLevel level words {}
    -- The level behind the command ends first, so its faults are told first.
    let inner ← inner.finish level environment
    let command ← commandOf level inner
    let top ← top.finish .top environment
    return invocationOf top inner environment command

end CodeMigration.CommandLine
