import CodeMigration.Disk
import CodeMigration.Migration
import CodeMigration.Settings

/-!
# CodeMigration.Writer

Writing changed texts back. A text that no rule changed is never written. Before a
file is overwritten, a copy of what it held can be put beside it; the copy and the
file are two writes, so the first can succeed and the second fail.
-/

namespace CodeMigration

/-- How changed texts are written. -/
structure Writer where
  /-- What becomes of the text that a file had before. -/
  mode : BackupMode := .keep
  /-- What is appended to a path to form the path of its copy. -/
  suffix : String := ".backup"
  /-- Is nothing to be written at all? -/
  dryRun : Bool := false
  deriving DecidableEq, Repr

/-- What became of a changed text. -/
inductive SaveStatus
  /-- No rule had fired, so nothing was written. -/
  | skipped
  /-- The text would be written, but this is a dry run. -/
  | wouldWrite
  /-- The text was written; `backup` is the copy that was left. -/
  | written (backup : Option Path)
  deriving DecidableEq, Repr

namespace Writer

/-- The path of the copy beside a path. -/
def backupPath (writer : Writer) (path : Path) : Path := path.withSuffix writer.suffix

/-- Overwrites the file and then does what is left to do. -/
def overwrite (path : Path) (text : Text) (andThen : Disk → Disk × Except FileError SaveStatus)
    (disk : Disk) : Disk × Except FileError SaveStatus :=
  match disk.write path text with
  | .error cause => (disk, .error (.unwritable path.text cause))
  | .ok disk => andThen disk

/-- Puts a copy of what the file held beside it and then does what is left to do. -/
def copyFirst (backup : Path) (text : Text) (andThen : Disk → Disk × Except FileError SaveStatus)
    (disk : Disk) : Disk × Except FileError SaveStatus :=
  match disk.write backup text with
  | .error cause => (disk, .error (.backupFailed backup.text cause))
  | .ok disk => andThen disk

/-- Removes the copy. -/
def dropCopy (backup : Path) (disk : Disk) : Disk × Except FileError SaveStatus :=
  match disk.remove backup with
  | .error cause => (disk, .error (.backupFailed backup.text cause))
  | .ok disk => (disk, .ok (.written none))

/-- Overwrites the file with its changed text, with a copy as the mode asks. -/
def replace (writer : Writer) (path : Path) (outcome : Outcome) (disk : Disk) :
    Disk × Except FileError SaveStatus :=
  let backup := writer.backupPath path
  match writer.mode with
  | .none => overwrite path outcome.after (fun disk => (disk, .ok (.written none))) disk
  | .keep =>
    copyFirst backup outcome.before
      (overwrite path outcome.after fun disk => (disk, .ok (.written (some backup)))) disk
  | .transient =>
    copyFirst backup outcome.before (overwrite path outcome.after (dropCopy backup)) disk

/-- Saves what became of the text of a file. If that fails, what was done before
stays done. -/
def save (writer : Writer) (path : Path) (outcome : Outcome) (disk : Disk) :
    Disk × Except FileError SaveStatus :=
  if !outcome.changed then (disk, .ok .skipped)
  else if writer.dryRun then (disk, .ok .wouldWrite)
  else writer.replace path outcome disk

end Writer

end CodeMigration
