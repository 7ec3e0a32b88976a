/-!
# CodeMigration.Failure

What can go wrong, as causes, and the one place where each cause is put into
words. The explanations that a reader of patterns, globs or settings would give
are not part of the message; a bracketed word holds their place.
-/

namespace CodeMigration

/-- Why a file could not be read, written or removed. -/
inductive DiskError
  /-- There is nothing at the path. -/
  | missing
  /-- A directory is where a file is needed. -/
  | isDirectory
  /-- A file is where a directory is needed. -/
  | notDirectory
  /-- A name is longer than a directory can hold. -/
  | nameTooLong
  /-- The file is not text. -/
  | notText
  deriving DecidableEq, Repr

/-- Why settings could not be used. -/
inductive SettingsError
  /-- The file of the settings could not be read. -/
  | unreadable (path : String) (cause : DiskError)
  /-- The file of the settings does not hold settings. -/
  | malformed
  /-- The pattern of a rule cannot be read. -/
  | badPattern (ruleId : String)
  /-- A glob cannot be read. -/
  | badGlob (glob : String)
  /-- A custom migration takes the name of a built-in one. -/
  | nameTaken (name : String)
  deriving DecidableEq, Repr

/-- Why a single file could not be processed. -/
inductive FileError
  /-- The file could not be read. -/
  | unreadable (path : String) (cause : DiskError)
  /-- The changed text could not be written. -/
  | unwritable (path : String) (cause : DiskError)
  /-- The copy of the former text could not be written or removed. -/
  | backupFailed (path : String) (cause : DiskError)
  deriving DecidableEq, Repr

/-- Why a command could not be carried out. -/
inductive Failure
  /-- The settings cannot be used. -/
  | settings (cause : SettingsError)
  /-- There is no migration of the name; `available` are those there are. -/
  | unknownMigration (name : String) (available : List String)
  deriving DecidableEq, Repr

/-- The cause in words. -/
def DiskError.message : DiskError → String
  | missing => "No such file or directory (os error 2)"
  | isDirectory => "Is a directory (os error 21)"
  | notDirectory => "Not a directory (os error 20)"
  | nameTooLong => "File name too long (os error 36)"
  | notText => "stream did not contain valid UTF-8"

namespace SettingsError

/-- The explanation behind the cause in words, if there is one. -/
def detail : SettingsError → Option String
  | unreadable _ cause => some cause.message
  | malformed => some "<toml>"
  | badPattern _ => some "<regex>"
  | badGlob _ => some "<glob>"
  | nameTaken _ => none

/-- The cause in words. -/
def message : SettingsError → String
  | unreadable path cause => "Failed to read config file '" ++ path ++ "': " ++ cause.message
  | malformed => "Failed to parse config: <toml>"
  | badPattern ruleId => "Invalid pattern in rule '" ++ ruleId ++ "': <regex>"
  | badGlob glob => "Invalid glob '" ++ glob ++ "': <glob>"
  | nameTaken name => "Migration '" ++ name ++ "' is already defined"

/-- The cause in words, followed by its explanation. -/
def chain (error : SettingsError) : List String := error.message :: error.detail.toList

end SettingsError

namespace FileError

/-- Could the file not be read? -/
def isUnreadable : FileError → Bool
  | unreadable _ _ => true
  | _ => false

/-- The cause in words. -/
def message : FileError → String
  | unreadable path cause => "File not found or unreadable '" ++ path ++ "': " ++ cause.message
  | unwritable path cause => "Failed to write '" ++ path ++ "': " ++ cause.message
  | backupFailed path cause => "Failed to handle backup '" ++ path ++ "': " ++ cause.message

end FileError

namespace Failure

/-- The cause in words. -/
def message : Failure → String
  | settings cause => "Configuration error: " ++ cause.message
  | unknownMigration name available =>
    "Unknown migration '" ++ name ++ "' (available: " ++ ", ".intercalate available ++ ")"

/-- The cause in words, followed by the causes behind it. -/
def chain : Failure → List String
  | settings cause => (settings cause).message :: cause.chain
  | unknownMigration name available => [(unknownMigration name available).message]

end Failure

end CodeMigration
