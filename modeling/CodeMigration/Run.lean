import CodeMigration.Diff.Unified
import CodeMigration.Report
import CodeMigration.Writer

/-!
# CodeMigration.Run

A run takes a migration over a list of files, one after the other in the order
given. A file that cannot be read or written is recorded, and the run goes on.
-/

namespace CodeMigration

/-- What a file on a disk would become. -/
def Migration.migrateFile (migration : Migration) (disk : Disk) (path : Path) :
    Except FileError Outcome :=
  match disk.read path with
  | .error cause => .error (.unreadable path.text cause)
  | .ok text => .ok (migration.migrate text)

/-- A migration together with the way in which its results are written. -/
structure Run where
  /-- The migration. -/
  migration : Migration
  /-- How changed texts are written. -/
  writer : Writer := {}
  /-- Is the difference to be recorded for each changed file? -/
  showDiff : Bool := false

namespace Run

/-- The record of a changed file. -/
def changedFile (run : Run) (path : Path) (outcome : Outcome) (backup : Option Path) :
    FileReport :=
  { path := path, status := .changed, appliedRules := outcome.applied, backup := backup
    diff := if run.showDiff then
        some (String.ofList (Diff.unified path outcome.before outcome.after))
      else none }

/-- Takes the migration over one file. -/
def process (run : Run) (disk : Disk) (path : Path) : Disk × FileReport :=
  match run.migration.migrateFile disk path with
  | .error cause => (disk, { path := path, status := .notFound, error := some cause.message })
  | .ok outcome =>
    match run.writer.save path outcome disk with
    | (disk, .ok .skipped) => (disk, { path := path, status := .skipped })
    | (disk, .ok .wouldWrite) => (disk, run.changedFile path outcome none)
    | (disk, .ok (.written backup)) => (disk, run.changedFile path outcome backup)
    | (disk, .error cause) =>
      (disk, { path := path, status := .failed, appliedRules := outcome.applied
               error := some cause.message })

/-- Takes the migration over files one after the other. -/
def processAll (run : Run) : Disk → List Path → Disk × List FileReport
  | disk, [] => (disk, [])
  | disk, path :: paths =>
    let (disk, file) := run.process disk path
    let (disk, files) := run.processAll disk paths
    (disk, file :: files)

/-- The report on files, before any of them was processed. -/
def newReport (run : Run) (startedAt : TimeStamp) : RunReport :=
  { migration := run.migration.name, dryRun := run.writer.dryRun, startedAt := startedAt }

/-- Takes the migration over files and reports on each of them. -/
def perform (run : Run) (startedAt : TimeStamp) (disk : Disk) (paths : List Path) :
    Disk × RunReport :=
  let (disk, files) := run.processAll disk paths
  (disk, files.foldl RunReport.record (run.newReport startedAt))

end Run

end CodeMigration
