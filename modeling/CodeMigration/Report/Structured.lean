import CodeMigration.JsonValue
import CodeMigration.Report.Terminal

/-!
# CodeMigration.Report.Structured

Reports and lists of migrations for machines, and the choice between the two
forms of output.
-/

namespace CodeMigration

namespace Structured

/-- A field that is left out if it has no value. -/
def optionalField (name : String) (value : Option String) : List (String × JsonValue) :=
  match value with
  | some s => [(name, .text s)]
  | none => []

/-- The entry of a file. -/
def ofFile (file : FileReport) : JsonValue :=
  .object ([("path", .text file.path.text), ("status", .text file.status.code),
    ("applied_rules", .texts file.appliedRules)] ++
    optionalField "backup" (file.backup.map (·.text)) ++ optionalField "error" file.error ++
    optionalField "diff" file.diff)

/-- The counters. -/
def ofSummary (s : RunSummary) : JsonValue :=
  .object [("processed", .number s.processed), ("changed", .number s.changed),
    ("skipped", .number s.skipped), ("not_found", .number s.notFound),
    ("failed", .number s.failed)]

/-- The fields of a report. -/
def reportFields (report : RunReport) : List (String × JsonValue) :=
  [("migration", .text report.migration), ("dry_run", .bool report.dryRun),
   ("started_at", .text report.startedAt.exact), ("duration_ms", .number report.durationMillis),
   ("summary", ofSummary report.summary), ("files", .list (report.files.map ofFile))]

/-- A report. -/
def ofReport (report : RunReport) : JsonValue := .object (reportFields report)

/-- A report under the version of the program. -/
def showReport (report : RunReport) : String :=
  (JsonValue.object (("version", .text programVersion) :: reportFields report)).print

/-- A migration with its rules. -/
def ofMigration (migration : Migration) : JsonValue :=
  .object [("name", .text migration.name), ("description", .text migration.description),
    ("rules", .texts migration.ruleIds), ("exclude", .texts migration.excludes)]

/-- A list of migrations. -/
def showMigrations (migrations : List Migration) : String :=
  (JsonValue.list (migrations.map ofMigration)).print

end Structured

/-- The forms of output. -/
inductive OutputFormat
  /-- For readers at a terminal. -/
  | terminal
  /-- For machines. -/
  | json
  deriving DecidableEq, Repr

namespace OutputFormat

/-- The word for the form. -/
def name : OutputFormat → String
  | terminal => "terminal"
  | json => "json"

/-- The form that a word stands for. -/
def named? : String → Option OutputFormat
  | "terminal" => some terminal
  | "json" => some json
  | _ => none

/-- A report in the form. -/
def showReport (format : OutputFormat) (colours : Bool) (report : RunReport) : String :=
  match format with
  | terminal => Terminal.showReport colours report
  | json => Structured.showReport report

/-- A list of migrations in the form. -/
def showMigrations (format : OutputFormat) (colours : Bool) (migrations : List Migration) :
    String :=
  match format with
  | terminal => Terminal.showMigrations colours migrations
  | json => Structured.showMigrations migrations

end OutputFormat

end CodeMigration
