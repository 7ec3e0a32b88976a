import CodeMigration.Path
import CodeMigration.Time.Span
import CodeMigration.Time.Stamp

/-!
# CodeMigration.Report

What a run did: one entry for each file, counters, and the time it took. Entries
are only ever added, and every entry is counted as it is added.
-/

namespace CodeMigration

/-- What became of a file. -/
inductive FileStatus
  /-- At least one rule fired. -/
  | changed
  /-- No rule fired. -/
  | skipped
  /-- The file could not be read. -/
  | notFound
  /-- The file or its copy could not be written. -/
  | failed
  deriving DecidableEq, Repr

namespace FileStatus

/-- The status for readers. -/
def label : FileStatus → String
  | changed => "changed"
  | skipped => "skipped"
  | notFound => "not found"
  | failed => "failed"

/-- The status for machines. -/
def code : FileStatus → String
  | notFound => "not_found"
  | status => status.label

end FileStatus

/-- The entry of a file. -/
structure FileReport where
  /-- The path of the file. -/
  path : Path
  /-- What became of it. -/
  status : FileStatus
  /-- The ids of the rules that fired, in order. -/
  appliedRules : List String := []
  /-- Where the copy of the former text is. -/
  backup : Option Path := none
  /-- What went wrong. -/
  error : Option String := none
  /-- The difference that the run made. -/
  diff : Option String := none
  deriving DecidableEq, Repr

/-- The counters of a run. -/
structure RunSummary where
  /-- How many files there were. -/
  processed : Nat := 0
  /-- How many of them changed. -/
  changed : Nat := 0
  /-- How many of them no rule fired on. -/
  skipped : Nat := 0
  /-- How many of them could not be read. -/
  notFound : Nat := 0
  /-- How many of them could not be written. -/
  failed : Nat := 0
  deriving DecidableEq, Repr

/-- Counts a file. -/
def RunSummary.record (s : RunSummary) (status : FileStatus) : RunSummary :=
  let s := { s with processed := s.processed + 1 }
  match status with
  | .changed => { s with changed := s.changed + 1 }
  | .skipped => { s with skipped := s.skipped + 1 }
  | .notFound => { s with notFound := s.notFound + 1 }
  | .failed => { s with failed := s.failed + 1 }

/-- The report of a run. -/
structure RunReport where
  /-- The migration that ran. -/
  migration : String
  /-- Were all files left as they were? -/
  dryRun : Bool
  /-- When the run began. -/
  startedAt : TimeStamp := {}
  /-- How many milliseconds the run took. -/
  durationMillis : Nat := 0
  /-- The counters. -/
  summary : RunSummary := {}
  /-- The entries, in the order of the files. -/
  files : List FileReport := []
  deriving DecidableEq, Repr

namespace RunReport

/-- The longest time a report can hold, in milliseconds. -/
def maxMillis : Nat := Nat.pow 2 64 - 1

/-- Adds an entry. -/
def record (report : RunReport) (file : FileReport) : RunReport :=
  { report with summary := report.summary.record file.status, files := report.files ++ [file] }

/-- Sets the time that the run took. -/
def finish (report : RunReport) (time : TimeSpan) : RunReport :=
  { report with durationMillis := Nat.min time.millis maxMillis }

/-- Adds the entries and the time of another report. -/
def merge (report other : RunReport) : RunReport :=
  let merged := other.files.foldl record report
  { merged with durationMillis := Nat.min (merged.durationMillis + other.durationMillis) maxMillis }

/-- The entries with a status. -/
def filesWithStatus (report : RunReport) (status : FileStatus) : List FileReport :=
  report.files.filter fun file => file.status == status

/-- Is there a file that could not be read or written? -/
def hasFailures (report : RunReport) : Bool :=
  0 < report.summary.notFound || 0 < report.summary.failed

end RunReport

end CodeMigration
