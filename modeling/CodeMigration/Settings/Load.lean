import CodeMigration.Disk
import CodeMigration.Settings.Document

/-!
# CodeMigration.Settings.Load

Settings on a disk. A project that has no file of settings has the defaults, but a
file that is named has to be there.
-/

namespace CodeMigration.Settings

/-- The name of the file of settings in a project. -/
def fileName : Path := ⟨".codemod.toml"⟩

/-- Reads the file of settings at a path. -/
def load (disk : Disk) (path : Path) : Except Failure Settings :=
  match disk.read path with
  | .error cause => .error (.settings (.unreadable path.text cause))
  | .ok document =>
    match parse? document with
    | some settings => .ok settings
    | none => .error (.settings .malformed)

/-- The settings of a project; without a file of them, the defaults. -/
def loadProject (disk : Disk) (directory : Path) : Except Failure Settings :=
  let path := directory.join fileName
  if disk.isPresent path then load disk path else .ok {}

end CodeMigration.Settings
