import CodeMigration.Command.Manual
import CodeMigration.Command.Plan

/-!
# CodeMigration.Command.Execute

Commands as functions on disks. A command first does its work and then tells about
it, so that the time the work took can be told too.
-/

namespace CodeMigration

/-- What a command has to know besides the command line and the disk. -/
structure Session where
  /-- Are colours shown? -/
  colours : Bool := false
  /-- When the work begins. -/
  startedAt : TimeStamp := {}
  /-- What the user answers when asked. -/
  consent : Consent := .unavailable

/-- The work of a command. -/
inductive Work
  /-- There is nothing more to do or tell. -/
  | done (reply : Reply)
  /-- A run is over, and its report is to be told. -/
  | ran (plan : RunPlan) (disk : Disk) (report : RunReport)

/-- Comments below new settings, which show how custom migrations are written. -/
def customMigrationExample : String :=
  "\n".intercalate
    ["",
     "# Custom migrations are regex rule sets:",
     "#",
     "# [migrations.rename-fetcher]",
     "# description = \"Rename legacyFetch to fetchJson\"",
     "# exclude = [\"**/*.test.ts\"]",
     "#",
     "# [[migrations.rename-fetcher.rules]]",
     "# id = \"call\"",
     "# pattern = '\\blegacyFetch\\('",
     "# replacement = \"fetchJson(\"",
     "# requires = [\"legacyFetch(\"]",
     "# forbids = []",
     ""]

namespace Session

/-- Prints the migrations. -/
def list (session : Session) (invocation : Invocation) (format : OutputFormat) (disk : Disk) :
    Reply :=
  match invocation.settings disk with
  | .error cause => .failed disk (.settings cause)
  | .ok settings =>
    match Catalog.loadAll settings with
    | .error cause => .failed disk (.migration cause)
    | .ok migrations =>
      { disk := disk, stdout := format.showMigrations session.colours migrations ++ "\n" }

/-- What is printed when settings are written. -/
def nextSteps (session : Session) (path : Path) : String :=
  let cyan := Style.paint .cyan session.colours
  Style.paint .boldGreen session.colours "Success:" ++ " Created " ++ cyan path.text ++ "\n" ++
    "\nNext steps:\n" ++
    "  1. Review and customize " ++ cyan path.text ++ "\n" ++
    "  2. Run " ++ cyan (programName ++ " list") ++ " to see available migrations\n" ++
    "  3. Run " ++ cyan (programName ++ " run <MIGRATION> --dry-run --diff") ++
    " to preview a migration\n"

/-- Writes a file of settings. One that is there is overwritten only by force. -/
def init (session : Session) (invocation : Invocation) (force : Bool) (disk : Disk) : Reply :=
  let path := invocation.settingsPath
  if disk.isPresent path && !force then
    { disk := disk, code := 2
      stderr := Style.paint .boldRed session.colours "Error:" ++ " " ++ path.text ++
        " already exists. Use --force to overwrite.\n" }
  else
    match disk.write path (Settings.print {} ++ customMigrationExample.toList) with
    | .error cause => .failed disk (.unwritable ("configuration file " ++ path.text) cause)
    | .ok disk => { disk := disk, stdout := session.nextSteps path }

/-- Writes the manual page into a directory. -/
def manual (directory : Path) (disk : Disk) : Reply :=
  let path := directory.join ⟨Manual.fileName⟩
  match disk.write path Manual.page.toList with
  | .error cause => .failed disk (.unwritable path.text cause)
  | .ok disk => { disk := disk, stdout := "Man page generated: " ++ path.text ++ "\n" }

/-- Does what the plan of a run says. -/
def work (session : Session) (plan : RunPlan) (disk : Disk) : Work :=
  let (disk, report) := plan.carryOut session.startedAt disk
  .ran plan disk report

/-- Does the work of a run, if the user is content with it. -/
def run (session : Session) (invocation : Invocation) (options : RunOptions) (disk : Disk) :
    Work :=
  match RunPlan.make invocation options disk with
  | .error cause => .done (.failed disk cause)
  | .ok plan =>
    if plan.needsConsent then
      match session.consent with
      | .unavailable => .done (.failed disk .noTerminal)
      | .denied =>
        .done { disk := disk, stdout := Style.paint .yellow session.colours "Aborted." ++ "\n" }
      | .granted => session.work plan disk
    else session.work plan disk

/-- Does the work of a command. -/
def start (session : Session) (invocation : Invocation) (disk : Disk) : Work :=
  match invocation.command with
  | .run options => session.run invocation options disk
  | .list format => .done (session.list invocation format disk)
  | .init force => .done (session.init invocation force disk)
  | .manual directory => .done (manual directory disk)

/-- Tells about the work of a command. -/
def finish (session : Session) (elapsed : TimeSpan) : Work → Reply
  | .done reply => reply
  | .ran plan disk report => plan.announce session.colours (report.finish elapsed) disk

/-- Carries out a command. -/
def execute (session : Session) (elapsed : TimeSpan) (invocation : Invocation) (disk : Disk) :
    Reply :=
  session.finish elapsed (session.start invocation disk)

end Session

/-- The question that the user is asked before a command, if there is one. -/
def Invocation.question? (invocation : Invocation) (disk : Disk) : Option String :=
  match invocation.command with
  | .run options =>
    match RunPlan.make invocation options disk with
    | .ok plan => if plan.needsConsent then some plan.question else none
    | .error _ => none
  | _ => none

end CodeMigration
