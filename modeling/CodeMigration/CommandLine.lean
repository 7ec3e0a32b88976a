import CodeMigration.Report.Structured
import CodeMigration.Settings.Load

/-!
# CodeMigration.CommandLine

What a command line asks for, and why one cannot be understood.
-/

namespace CodeMigration

/-- What a run is asked to do. -/
structure RunOptions where
  /-- The name of the migration. -/
  migration : String
  /-- The files, in order; without any, those of the project. -/
  paths : List Path := []
  /-- Is nothing to be written? -/
  dryRun : Bool := false
  /-- Are no copies to be made? -/
  noBackup : Bool := false
  /-- Are copies to be removed once a file is changed? -/
  transientBackup : Bool := false
  /-- Is the difference to be shown for each changed file? -/
  showDiff : Bool := false
  /-- Is the user not to be asked? -/
  assumeYes : Bool := false
  /-- The form of the report. -/
  format : OutputFormat := .terminal
  /-- The file for the report. -/
  output : Option Path := none
  deriving DecidableEq, Repr

/-- A command. -/
inductive Command
  /-- Take a migration over files. -/
  | run (options : RunOptions)
  /-- List the migrations. -/
  | list (format : OutputFormat)
  /-- Write a file of settings; `force` overwrites one that is there. -/
  | init (force : Bool)
  /-- Write the manual page into a directory. -/
  | manual (directory : Path)
  deriving DecidableEq, Repr

/-- What a command line asks for. -/
structure Invocation where
  /-- How much is to be told about the work. -/
  verbosity : Nat := 0
  /-- The file of settings. -/
  config : Option Path := none
  /-- The directory of the project. -/
  directory : Option Path := none
  /-- The command. -/
  command : Command
  deriving DecidableEq, Repr

namespace Invocation

/-- The directory of the project. -/
def project (invocation : Invocation) : Path := invocation.directory.getD ⟨"."⟩

/-- The file of settings that is written, and read unless it is missing. -/
def settingsPath (invocation : Invocation) : Path :=
  invocation.config.getD (invocation.project.join Settings.fileName)

/-- The settings of the project. A file that is named has to be there. -/
def settings (invocation : Invocation) (disk : Disk) : Except Failure Settings :=
  match invocation.config with
  | some path => Settings.load disk path
  | none => Settings.loadProject disk invocation.project

end Invocation

/-- Why a command line asks for nothing that can be done. -/
inductive UsageError
  /-- Arguments exclude each other, or one is given twice. -/
  | conflict
  /-- A value is missing or not admitted. -/
  | badValue
  /-- A flag is given a value. -/
  | tooManyValues
  /-- There is no such argument. -/
  | unknownArgument
  /-- There is no such command. -/
  | unknownCommand
  /-- There are no arguments at all. -/
  | nothingGiven
  /-- There is no command. -/
  | commandMissing
  /-- A required argument is missing. -/
  | argumentMissing
  /-- Help is asked for. -/
  | helpWanted
  /-- The version is asked for; `text` tells it. -/
  | versionWanted (text : String)
  deriving DecidableEq, Repr

/-- What is wrong with the command line, in words. -/
def UsageError.message : UsageError → String
  | conflict => "an argument excludes another one or is given twice"
  | badValue => "a value is missing or not admitted"
  | tooManyValues => "a flag takes no value"
  | unknownArgument => "unknown argument"
  | unknownCommand => "unknown command"
  | nothingGiven => "no arguments"
  | commandMissing => "a command is required"
  | argumentMissing => "a required argument is missing"
  | helpWanted => "help"
  | versionWanted text => text

/-- The exit code for a command line that asks for nothing that can be done. -/
def UsageError.exitCode : UsageError → Nat
  | helpWanted => 0
  | versionWanted _ => 0
  | _ => 2

end CodeMigration
