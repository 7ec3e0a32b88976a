import CodeMigration.Migration
import CodeMigration.Report
import CodeMigration.Style

/-!
# CodeMigration.Report.Terminal

Reports and lists of migrations for readers at a terminal.
-/

namespace CodeMigration

/-- The name and the version of the program. -/
def programName : String := "codemod"

/-- The version of the program. -/
def programVersion : String := "0.1.0"

namespace Terminal

/-- The lines of a text without their ends. A carriage return belongs to the end of
a line only in front of a line feed. -/
def linesOf (text : List Char) : List String := collect text []
where
  /-- Continues with the characters of the current line, in reverse. -/
  collect : List Char → List Char → List String
    | [], line => if line.isEmpty then [] else [String.ofList line.reverse]
    | '\n' :: rest, line =>
      let line := if line.head? == some '\r' then line.drop 1 else line
      String.ofList line.reverse :: collect rest []
    | c :: rest, line => collect rest (c :: line)

/-- A text filled up with blanks to the given width. -/
def padRight (width : Nat) (s : String) : String :=
  s ++ String.ofList (List.replicate (width - s.length) ' ')

/-- A rule across the page with a heading below it. -/
def sectionHead (colours : Bool) (heading : String) : String :=
  "\n" ++ Style.paint .dimmed colours (String.ofList (List.replicate 50 '━')) ++ "\n" ++
    Style.paint .bold colours ("  " ++ heading) ++ "\n\n"

/-- The head of a report. -/
def header (colours : Bool) (report : RunReport) : String :=
  "\n" ++ Style.paint .boldCyan colours programName ++ " v" ++ programVersion ++ "\n\n" ++
    Style.paint .dimmed colours "Migration:" ++ " " ++
    Style.paint .boldWhite colours report.migration ++ "\n" ++
    Style.paint .dimmed colours "Started:" ++ " " ++ report.startedAt.display ++ "\n" ++
    (if report.dryRun then
      Style.paint .yellow colours "Dry run: no files will be written" ++ "\n"
    else "")

/-- The sign of a status. -/
def marker (colours : Bool) : FileStatus → String
  | .changed => Style.paint .green colours "✓"
  | .skipped => Style.paint .dimmed colours "·"
  | .notFound => Style.paint .yellow colours "?"
  | .failed => Style.paint .red colours "✗"

/-- The style of a line of a difference, if it has one. -/
def diffStyle (line : String) : Option Style :=
  let line := line.toList
  if "+++".toList.isPrefixOf line || "---".toList.isPrefixOf line then some .bold
  else if line.head? == some '+' then some .green
  else if line.head? == some '-' then some .red
  else if "@@".toList.isPrefixOf line then some .cyan
  else none

/-- A difference, line by line. -/
def showDiff (colours : Bool) (diff : String) : String :=
  String.join ((linesOf diff.toList).map fun line =>
    "      " ++ (match diffStyle line with
      | some style => style.paint colours line
      | none => line) ++ "\n")

/-- The entry of a file. -/
def showFile (colours : Bool) (file : FileReport) : String :=
  let branch := "    " ++ Style.paint .dimmed colours "└─" ++ " "
  "  " ++ marker colours file.status ++ " " ++ file.path.text ++ " " ++
    Style.paint .dimmed colours ("(" ++ file.status.label ++ ")") ++ "\n" ++
    String.join (file.appliedRules.map fun rule =>
      branch ++ Style.paint .cyan colours rule ++ "\n") ++
    (match file.backup with
      | some backup => branch ++ "backup: " ++ Style.paint .dimmed colours backup.text ++ "\n"
      | none => "") ++
    (match file.error with
      | some error => branch ++ Style.paint .red colours error ++ "\n"
      | none => "") ++
    (match file.diff with
      | some diff => showDiff colours diff
      | none => "")

/-- The counters of a report. -/
def summary (colours : Bool) (report : RunReport) : String :=
  let s := report.summary
  let row (label value : String) := "  " ++ padRight 14 label ++ value ++ "\n"
  sectionHead colours "SUMMARY" ++
    row "Processed:" (toString s.processed) ++
    row (if report.dryRun then "Would change:" else "Changed:")
      (Style.paint .green colours (toString s.changed)) ++
    row "Skipped:" (toString s.skipped) ++
    (if 0 < s.notFound then
      row "Not found:" (Style.paint .yellow colours (toString s.notFound))
    else "") ++
    (if 0 < s.failed then row "Failed:" (Style.paint .red colours (toString s.failed)) else "") ++
    "\n  " ++ Style.paint .dimmed colours "Duration:" ++ " " ++
    (TimeSpan.ofMillis report.durationMillis).display ++ "\n"

/-- A report. -/
def showReport (colours : Bool) (report : RunReport) : String :=
  header colours report ++ sectionHead colours "FILES" ++
    (if report.files.isEmpty then
      "  " ++ Style.paint .yellow colours "No files selected." ++ "\n"
    else "") ++
    String.join (report.files.map (showFile colours)) ++ summary colours report

/-- A migration with its rules. -/
def showMigration (colours : Bool) (migration : Migration) : String :=
  "  " ++ Style.paint .boldCyan colours migration.name ++ "\n" ++
    (if migration.description.isEmpty then "" else "    " ++ migration.description ++ "\n") ++
    String.join (migration.ruleIds.map fun id =>
      "    " ++ Style.paint .dimmed colours "•" ++ " " ++ id ++ "\n") ++
    (if migration.excludes.isEmpty then ""
    else
      "    " ++ Style.paint .dimmed colours "excludes:" ++ " " ++
        Style.paint .dimmed colours (", ".intercalate migration.excludes) ++ "\n") ++
    "\n"

/-- A list of migrations. -/
def showMigrations (colours : Bool) (migrations : List Migration) : String :=
  "\n" ++ Style.paint .bold colours "Available migrations" ++ "\n\n" ++
    String.join (migrations.map (showMigration colours))

end Terminal

end CodeMigration
