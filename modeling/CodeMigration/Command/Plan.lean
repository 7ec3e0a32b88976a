import CodeMigration.Command.Reply
import CodeMigration.CommandLine
import CodeMigration.Migration.Catalog
import CodeMigration.Run
import CodeMigration.Selection

/-!
# CodeMigration.Command.Plan

A run of a migration, from the command line to the report. The plan says what will be
done; making it can fail, but changes nothing. Carrying it out cannot fail as a whole,
and telling about it can fail only if the report is to be written to a file.

The migration to named exports takes two passes. Files that are listed have their
exports changed, and their imports with them; after that, the imports are changed in
all other files of the project, so that no file is written twice.
-/

namespace CodeMigration

/-- What a run is going to do. -/
structure RunPlan where
  /-- What is asked for. -/
  options : RunOptions
  /-- The directory of the project. -/
  project : Path
  /-- The migration. -/
  migration : Migration
  /-- The files, in order. -/
  paths : List Path
  /-- The choice of all files of the project. -/
  everything : Selector
  /-- How changed texts are written. -/
  writer : Writer

/-- The answer of the user to the question whether to go on. -/
inductive Consent
  /-- There is nobody to ask. -/
  | unavailable
  /-- The user wants to go on. -/
  | granted
  /-- The user does not want to go on. -/
  | denied
  deriving DecidableEq, Repr

namespace RunPlan

/-! ### Making a plan -/

/-- How changed texts are written; options count more than settings. -/
def writerFor (settings : BackupSettings) (options : RunOptions) : Writer where
  mode :=
    if options.noBackup then .none
    else if options.transientBackup then .transient
    else settings.mode
  suffix := settings.suffix
  dryRun := options.dryRun

/-- Turns the failure of a step into that of the command. -/
def orFail {ε α : Type} (wrap : ε → CommandError) : Except ε α → Except CommandError α
  | .ok value => .ok value
  | .error cause => .error (wrap cause)

/-- Makes the plan for a run. -/
def make (invocation : Invocation) (options : RunOptions) (disk : Disk) :
    Except CommandError RunPlan := do
  let settings ← orFail .settings (invocation.settings disk)
  let migration ← orFail .migration (Catalog.load options.migration settings)
  let project := invocation.project
  let selector ← orFail .selection (Selector.ofSettings project settings.files migration.excludes)
  let everything ← orFail .selection (Selector.ofSettings project settings.files [])
  return { options := options, project := project, migration := migration
           paths := if options.paths.isEmpty then selector.select disk
             else selector.resolve options.paths
           everything := everything
           writer := writerFor settings.backup options }

/-- Does the user have to be asked first? -/
def needsConsent (plan : RunPlan) : Bool :=
  !plan.options.assumeYes && !plan.options.dryRun && !plan.paths.isEmpty

/-- The question to the user. -/
def question (plan : RunPlan) : String :=
  "Apply '" ++ plan.migration.name ++ "' to " ++ toString plan.paths.length ++ " file(s)?"

/-! ### Carrying it out -/

/-- A run of a migration the way the plan says. -/
def runOf (plan : RunPlan) (migration : Migration) : Run :=
  ⟨migration, plan.writer, plan.options.showDiff⟩

/-- The modules among the files of the plan whose default export becomes a named one. -/
def modules (plan : RunPlan) (disk : Disk) : List NamedExports.ConvertedModule :=
  NamedExports.convertedModules (plan.project.join NamedExports.sourceRoot)
    (disk.readable plan.paths)

/-- The files of the project that the plan does not list. -/
def others (plan : RunPlan) (disk : Disk) : List Path :=
  (plan.everything.select disk).filter fun path => !plan.paths.any path.same

/-- Changes the exports of the listed files, and then the imports of all others. If no
export changes, no import has to. -/
def convertExports (plan : RunPlan) (startedAt : TimeStamp) (disk : Disk) : Disk × RunReport :=
  let modules := plan.modules disk
  let conversion := plan.runOf (NamedExports.fullMigration modules)
  let importers := plan.runOf (NamedExports.importersMigration modules)
  let (disk, report) := conversion.perform startedAt disk plan.paths
  if importers.migration.rules.isEmpty then (disk, report)
  else
    let (disk, further) := importers.perform startedAt disk (plan.others disk)
    (disk, report.merge further)

/-- Carries out the plan. -/
def carryOut (plan : RunPlan) (startedAt : TimeStamp) (disk : Disk) : Disk × RunReport :=
  if plan.migration.name = NamedExports.name then plan.convertExports startedAt disk
  else (plan.runOf plan.migration).perform startedAt disk plan.paths

/-! ### Telling about it -/

/-- Prints the report or writes it to a file. -/
def announce (plan : RunPlan) (colours : Bool) (report : RunReport) (disk : Disk) : Reply :=
  let shown := plan.options.format.showReport colours report
  let code := if report.hasFailures then 1 else 0
  match plan.options.output with
  | none => { disk := disk, code := code, stdout := shown ++ "\n" }
  | some path =>
    match disk.write path shown.toList with
    | .error cause => .failed disk (.unwritable ("report to " ++ path.text) cause)
    | .ok disk => { disk := disk, code := code, stderr := "Report written to: " ++ path.text ++ "\n" }

end RunPlan

end CodeMigration
