import CodeMigration.Failure
import CodeMigration.Glob
import CodeMigration.Ignore
import CodeMigration.Settings

/-!
# CodeMigration.Selection

Which files a run looks at. A file is taken if it has one of the extensions and
none of the globs matches its path below the root; files are taken in the order of
their paths.
-/

namespace CodeMigration

/-- The choice of files below a root. -/
structure Selector where
  /-- The directory whose files are chosen. -/
  root : Path
  /-- The extensions of the files that are taken. -/
  extensions : List String
  /-- The globs of the paths that are left alone. -/
  excludes : List Glob

namespace Selector

/-- Reads the globs; the first one that cannot be read is reported. -/
def readGlobs (written : List String) : Except SettingsError (List Glob) :=
  written.mapM fun glob =>
    match Glob.parse? false glob with
    | some g => .ok g
    | none => .error (.badGlob glob)

/-- The choice of the settings, with further globs of a migration. Dots in front of
extensions do not count. -/
def ofSettings (root : Path) (files : FileSettings) (extra : List String) :
    Except SettingsError Selector := do
  let excludes ← readGlobs (files.exclude ++ extra)
  let extensions := files.extensions.map fun e => String.ofList (e.toList.dropWhile (· == '.'))
  return ⟨root, extensions, excludes⟩

/-- Is the file at the path below the root taken? -/
def accepts (selector : Selector) (path : Path) : Bool :=
  path.extension?.any selector.extensions.contains &&
    !selector.excludes.any fun glob => glob.isMatch path.text

/-- The files among the given paths that are taken, in order and joined to the root. -/
def choose (selector : Selector) (paths : List Path) : List Path :=
  ((paths.filter selector.accepts).mergeSort Path.le).map selector.root.join

/-- The files below the root that are taken, in order and joined to the root. -/
def select (selector : Selector) (disk : Disk) : List Path :=
  selector.choose (disk.scan selector.root)

/-- The given paths joined to the root, in the order given. -/
def resolve (selector : Selector) (paths : List Path) : List Path :=
  paths.map selector.root.join

end Selector

end CodeMigration
