import CodeMigration.Report.Terminal

/-!
# CodeMigration.Command.Manual

The manual page and the short help of the program.
-/

namespace CodeMigration.Manual

/-- The file of the manual page. -/
def fileName : String := programName ++ ".1"

/-- An entry of the manual: how something is written, and what it does. -/
structure Entry where
  /-- How it is written. -/
  usage : String
  /-- What it does. -/
  effect : String

/-- The commands. -/
def commands : List Entry :=
  [⟨"run <MIGRATION> [PATHS]...", "Apply a migration"⟩,
   ⟨"list", "List available migrations"⟩,
   ⟨"init", "Initialize a new configuration file"⟩]

/-- The options that every command has. -/
def commonOptions : List Entry :=
  [⟨"-v, --verbose", "Increase verbosity level"⟩,
   ⟨"-c, --config <FILE>", "Path to configuration file"⟩,
   ⟨"-C, --directory <DIR>", "Project directory (defaults to current directory)"⟩,
   ⟨"-h, --help", "Print help"⟩,
   ⟨"-V, --version", "Print version"⟩]

/-- The options of a run. -/
def runOptions : List Entry :=
  [⟨"--dry-run", "Show what would change without writing anything"⟩,
   ⟨"--no-backup", "Overwrite files without writing a backup"⟩,
   ⟨"--transient-backup", "Remove each backup once its file has been rewritten"⟩,
   ⟨"--diff", "Include a unified diff for every changed file"⟩,
   ⟨"-y, --yes", "Skip the confirmation prompt"⟩,
   ⟨"-f, --format <FORMAT>", "Output format (terminal or json)"⟩,
   ⟨"-o, --output <FILE>", "Output file (defaults to stdout)"⟩]

/-- One line that says what the program does. -/
def summary : String := "apply idempotent, pattern-based source migrations"

/-- The text of an entry on a manual page, with its hyphens as they are written. -/
def Entry.onPage (entry : Entry) : String :=
  ".TP\n\\fB" ++ escaped entry.usage ++ "\\fR\n" ++ entry.effect ++ "\n"
where
  /-- The text with a backslash before each hyphen. -/
  escaped (s : String) : String :=
    String.ofList (s.toList.flatMap fun c => if c == '-' then ['\\', '-'] else [c])

/-- A section of the manual page. -/
def pageSection (heading : String) (entries : List Entry) : String :=
  ".SH " ++ heading ++ "\n" ++ String.join (entries.map Entry.onPage)

/-- The manual page. -/
def page : String :=
  ".TH " ++ programName ++ " 1 \"" ++ programName ++ " " ++ programVersion ++ "\"\n" ++
    ".SH NAME\n" ++ programName ++ " \\- " ++ summary ++ "\n" ++
    pageSection "COMMANDS" commands ++ pageSection "OPTIONS" commonOptions ++
    pageSection "\"RUN OPTIONS\"" runOptions

/-- A part of the short help. -/
def helpSection (heading : String) (entries : List Entry) : String :=
  heading ++ ":\n" ++
    String.join (entries.map fun entry =>
      "  " ++ Terminal.padRight 28 entry.usage ++ entry.effect ++ "\n")

/-- The short help. -/
def help : String :=
  programName ++ " - " ++ summary ++ "\n\nUsage: " ++ programName ++
    " [OPTIONS] <COMMAND>\n\n" ++
    "\n".intercalate [helpSection "Commands" commands, helpSection "Options" commonOptions,
      helpSection "Options of run" runOptions]

end CodeMigration.Manual
