import CodeMigration.Disk

/-!
# CodeMigration.Command.Reply

What a command leaves behind: the disk, what it printed, its exit code, and the
failure that ended it, if one did.
-/

namespace CodeMigration

/-- Why a command failed. -/
inductive CommandError
  /-- The settings could not be loaded. -/
  | settings (cause : Failure)
  /-- The migrations could not be loaded. -/
  | migration (cause : Failure)
  /-- The files could not be chosen. -/
  | selection (cause : SettingsError)
  /-- The user is to be asked, but there is no terminal. -/
  | noTerminal
  /-- A file could not be written; `what` tells which one. -/
  | unwritable (what : String) (cause : DiskError)
  deriving DecidableEq, Repr

namespace CommandError

/-- What went wrong in words, followed by the causes behind it. -/
def chain : CommandError → List String
  | settings cause => "Failed to load configuration" :: cause.chain
  | migration cause => cause.chain
  | selection cause => cause.chain
  | noTerminal => ["IO error: not a terminal", "not a terminal"]
  | unwritable what cause => ["Failed to write " ++ what, cause.message]

/-- What went wrong in words. -/
def message (error : CommandError) : String := ": ".intercalate error.chain

/-- The exit code for the failure. A migration that does not exist has one of its own. -/
def exitCode : CommandError → Nat
  | settings (.unknownMigration _ _) => 3
  | migration (.unknownMigration _ _) => 3
  | _ => 2

end CommandError

/-- What a command leaves behind. -/
structure Reply where
  /-- The disk. -/
  disk : Disk
  /-- The exit code. -/
  code : Nat := 0
  /-- What was printed. -/
  stdout : String := ""
  /-- What was printed on the side. -/
  stderr : String := ""
  /-- Why the command failed. -/
  failure : Option CommandError := none
  deriving DecidableEq, Repr

/-- The reply of a command that failed. -/
def Reply.failed (disk : Disk) (error : CommandError) : Reply :=
  { disk := disk, code := error.exitCode, failure := some error }

end CodeMigration
