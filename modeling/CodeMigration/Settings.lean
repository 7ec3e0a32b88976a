/-!
# CodeMigration.Settings

The settings of a project: how former texts are kept, which files are looked at, the
parameters of the built-in migrations, and migrations made of patterns alone.
-/

namespace CodeMigration

/-- What becomes of the text that a file had before it was changed. -/
inductive BackupMode
  /-- A copy stays beside the changed file. -/
  | keep
  /-- A copy is made and removed once the file is changed. -/
  | transient
  /-- No copy is made. -/
  | none
  deriving DecidableEq, Repr

namespace BackupMode

/-- The word for the mode. -/
def name : BackupMode → String
  | keep => "keep"
  | transient => "transient"
  | none => "none"

/-- The mode that a word stands for. -/
def named? : String → Option BackupMode
  | "keep" => some keep
  | "transient" => some transient
  | "none" => some none
  | _ => Option.none

theorem named?_name (mode : BackupMode) : named? mode.name = some mode := by
  cases mode <;> rfl

end BackupMode

/-- How former texts are kept. -/
structure BackupSettings where
  /-- What becomes of former texts. -/
  mode : BackupMode := .keep
  /-- What is appended to a path to form the path of its copy. -/
  suffix : String := ".backup"
  deriving DecidableEq, Repr

/-- Which files are looked at. -/
structure FileSettings where
  /-- Extensions of the files that are looked at. -/
  extensions : List String := ["ts", "tsx", "js", "jsx"]
  /-- Globs of paths that are left alone. -/
  exclude : List String :=
    ["**/*.d.ts", "**/node_modules/**", "**/.next/**", "**/dist/**", "**/build/**"]
  deriving DecidableEq, Repr

/-- Parameters of the migration that wraps clients. -/
structure TypedClientSettings where
  /-- The factory whose result gets wrapped. -/
  factory : String := "createClient"
  /-- The wrapping function. -/
  wrapper : String := "typed"
  /-- The name of the raw result. -/
  intermediate : String := "client"
  /-- The module of the wrapping function. -/
  wrapperModule : String := "@/lib/supabase/typed-client"
  /-- The module of the factory. -/
  anchorModule : String := "@/utils/supabase/server"
  /-- The member that is taken from the raw result. -/
  accessor : String := "auth"
  deriving DecidableEq, Repr

/-- Parameters of the migration that swaps links. -/
structure PrefetchLinkSettings where
  /-- The component that loses the link attribute. -/
  outer : String := "BreadcrumbLink"
  /-- The component that gets the link attribute. -/
  inner : String := "PrefetchLink"
  /-- The link attribute. -/
  linkAttribute : String := "href"
  /-- The flag that the outer component gets. -/
  outerFlag : String := "asChild"
  /-- The module of the inner component. -/
  innerModule : String := "@/components/ui/prefetch-link"
  /-- The module of the outer component. -/
  anchorModule : String := "@/components/ui/breadcrumb"
  deriving DecidableEq, Repr

/-- A rule made of a written pattern and a template. -/
structure CustomRule where
  /-- The name of the rule within its migration. -/
  id : String
  /-- The written pattern. -/
  pattern : String
  /-- The replacement template. -/
  replacement : String
  /-- Words that must all occur. -/
  requires : List String := []
  /-- Words none of which may occur. -/
  forbids : List String := []
  deriving DecidableEq, Repr

/-- A migration made of written patterns. -/
structure CustomMigration where
  /-- What the migration does, in words. -/
  description : Option String := none
  /-- Globs of paths that the migration leaves alone. -/
  exclude : List String := []
  /-- The rules in the order in which they apply. -/
  rules : List CustomRule := []
  deriving DecidableEq, Repr

/-- All settings of a project. -/
structure Settings where
  /-- How former texts are kept. -/
  backup : BackupSettings := {}
  /-- Which files are looked at. -/
  files : FileSettings := {}
  /-- Parameters of the migration that wraps clients. -/
  typedClient : TypedClientSettings := {}
  /-- Parameters of the migration that swaps links. -/
  prefetchLink : PrefetchLinkSettings := {}
  /-- Custom migrations in the order of their names, which are all different. -/
  migrations : List (String × CustomMigration) := []
  deriving DecidableEq, Repr

namespace Settings

/-- Puts a value under a name into a list in the order of the names; a value that
was there under the name before gives way. -/
def insertNamed {α : Type} (name : String) (value : α) : List (String × α) → List (String × α)
  | [] => [(name, value)]
  | (other, old) :: rest =>
    if name = other then (name, value) :: rest
    else if name < other then (name, value) :: (other, old) :: rest
    else (other, old) :: insertNamed name value rest

/-- The list in the order of the names; of several values under one name the last
one counts. -/
def sortNamed {α : Type} (entries : List (String × α)) : List (String × α) :=
  entries.foldl (fun sorted (name, value) => insertNamed name value sorted) []

end Settings

end CodeMigration
