import CodeMigration.Settings
import CodeMigration.Toml.Reader
import CodeMigration.Toml.Writer

/-!
# CodeMigration.Settings.Document

Settings as documents. Whatever a document leaves out has its default, and names
that mean nothing are passed over; a value of the wrong kind spoils the document.
`Settings.parse?` reads a document, and `Settings.print` writes one in which nothing
is left out.
-/

namespace CodeMigration

open Toml (Value Table Statement)

namespace Settings

/-! ### Reading -/

/-- The named values of a section. A section can also be written as the list of its
values in the order of their names, and a moment stands for a section that leaves
everything out. -/
def section? (names : List String) : Value → Option Table
  | .table entries => some entries
  | .list items => some (names.zip items)
  | .moment _ => some []
  | _ => none

/-- Reads a text. -/
def text? : Value → Option String
  | .text s => some s
  | _ => none

/-- Reads a list. -/
def list? {α : Type} (item? : Value → Option α) : Value → Option (List α)
  | .list items => items.mapM item?
  | _ => none

/-- Reads the word for a backup mode, which may also be the only name of a table with
nothing under it. -/
def mode? : Value → Option BackupMode
  | .text s => BackupMode.named? s
  | .table [(name, .table [])] => BackupMode.named? name
  | .table [(name, .list [])] => BackupMode.named? name
  | _ => none

/-- Reads the value under a name; without one the default counts. -/
def optional {α : Type} (table : Table) (name : String) (read? : Value → Option α)
    (default : α) : Option α :=
  match table.get? name with
  | none => some default
  | some value => read? value

/-- Reads the value under a name that must be there. -/
def required {α : Type} (table : Table) (name : String) (read? : Value → Option α) : Option α :=
  (table.get? name).bind read?

/-- Reads how former texts are kept. -/
def backup? (value : Value) : Option BackupSettings := do
  let d : BackupSettings := {}
  let t ← section? ["mode", "suffix"] value
  return { mode := ← optional t "mode" mode? d.mode
           suffix := ← optional t "suffix" text? d.suffix }

/-- Reads which files are looked at. -/
def files? (value : Value) : Option FileSettings := do
  let d : FileSettings := {}
  let t ← section? ["extensions", "exclude"] value
  return { extensions := ← optional t "extensions" (list? text?) d.extensions
           exclude := ← optional t "exclude" (list? text?) d.exclude }

/-- Reads the parameters of the migration that wraps clients. -/
def typedClient? (value : Value) : Option TypedClientSettings := do
  let d : TypedClientSettings := {}
  let t ← section? ["factory", "wrapper", "intermediate", "wrapper_module", "anchor_module",
    "accessor"] value
  return { factory := ← optional t "factory" text? d.factory
           wrapper := ← optional t "wrapper" text? d.wrapper
           intermediate := ← optional t "intermediate" text? d.intermediate
           wrapperModule := ← optional t "wrapper_module" text? d.wrapperModule
           anchorModule := ← optional t "anchor_module" text? d.anchorModule
           accessor := ← optional t "accessor" text? d.accessor }

/-- Reads the parameters of the migration that swaps links. -/
def prefetchLink? (value : Value) : Option PrefetchLinkSettings := do
  let d : PrefetchLinkSettings := {}
  let t ← section? ["outer", "inner", "attribute", "outer_flag", "inner_module",
    "anchor_module"] value
  return { outer := ← optional t "outer" text? d.outer
           inner := ← optional t "inner" text? d.inner
           linkAttribute := ← optional t "attribute" text? d.linkAttribute
           outerFlag := ← optional t "outer_flag" text? d.outerFlag
           innerModule := ← optional t "inner_module" text? d.innerModule
           anchorModule := ← optional t "anchor_module" text? d.anchorModule }

/-- Reads a rule of a custom migration. -/
def customRule? (value : Value) : Option CustomRule := do
  let t ← section? ["id", "pattern", "replacement", "requires", "forbids"] value
  return { id := ← required t "id" text?
           pattern := ← required t "pattern" text?
           replacement := ← required t "replacement" text?
           requires := ← optional t "requires" (list? text?) []
           forbids := ← optional t "forbids" (list? text?) [] }

/-- Reads a custom migration. -/
def customMigration? (value : Value) : Option CustomMigration := do
  let t ← section? ["description", "exclude", "rules"] value
  return { description := ← optional t "description" (fun v => (text? v).map some) none
           exclude := ← optional t "exclude" (list? text?) []
           rules := ← optional t "rules" (list? customRule?) [] }

/-- Reads the custom migrations. -/
def migrations? : Value → Option (List (String × CustomMigration))
  | .table entries =>
    (entries.mapM fun entry => (customMigration? entry.2).map (entry.1, ·)).map sortNamed
  | _ => none

/-- The settings that a table stands for. -/
def ofTable? (t : Table) : Option Settings := do
  let d : Settings := {}
  return { backup := ← optional t "backup" backup? d.backup
           files := ← optional t "files" files? d.files
           typedClient := ← optional t "typed_client" typedClient? d.typedClient
           prefetchLink := ← optional t "prefetch_link" prefetchLink? d.prefetchLink
           migrations := ← optional t "migrations" migrations? d.migrations }

/-- The settings that a document stands for. -/
def parse? (document : Text) : Option Settings := (Toml.parse? document).bind ofTable?

/-! ### Writing -/

/-- A value for a single name. -/
def entry (name : String) (value : Value) : Statement := .entry [name] value

/-- A text for a name. -/
def textEntry (name s : String) : Statement := entry name (.text s)

/-- A list of texts for a name. -/
def textsEntry (name : String) (ss : List String) : Statement := entry name (.list (ss.map .text))

/-- The statements of a rule of a custom migration. -/
def ruleStatements (name : String) (rule : CustomRule) : List Statement :=
  [.appends ["migrations", name, "rules"], textEntry "id" rule.id,
   textEntry "pattern" rule.pattern, textEntry "replacement" rule.replacement,
   textsEntry "requires" rule.requires, textsEntry "forbids" rule.forbids]

/-- The statements of a custom migration. -/
def migrationStatements : String × CustomMigration → List Statement
  | (name, migration) =>
    .opens ["migrations", name] ::
      (migration.description.map (textEntry "description")).toList ++
      textsEntry "exclude" migration.exclude ::
      (if migration.rules.isEmpty then [entry "rules" (.list [])]
       else migration.rules.flatMap (ruleStatements name))

/-- The statements that spell out the settings. -/
def statements (s : Settings) : List Statement :=
  [.opens ["backup"], textEntry "mode" s.backup.mode.name, textEntry "suffix" s.backup.suffix,
   .opens ["files"], textsEntry "extensions" s.files.extensions,
   textsEntry "exclude" s.files.exclude,
   .opens ["typed_client"], textEntry "factory" s.typedClient.factory,
   textEntry "wrapper" s.typedClient.wrapper,
   textEntry "intermediate" s.typedClient.intermediate,
   textEntry "wrapper_module" s.typedClient.wrapperModule,
   textEntry "anchor_module" s.typedClient.anchorModule,
   textEntry "accessor" s.typedClient.accessor,
   .opens ["prefetch_link"], textEntry "outer" s.prefetchLink.outer,
   textEntry "inner" s.prefetchLink.inner, textEntry "attribute" s.prefetchLink.linkAttribute,
   textEntry "outer_flag" s.prefetchLink.outerFlag,
   textEntry "inner_module" s.prefetchLink.innerModule,
   textEntry "anchor_module" s.prefetchLink.anchorModule] ++
  (if s.migrations.isEmpty then [.opens ["migrations"]]
   else s.migrations.flatMap migrationStatements)

/-- The document that spells out the settings. -/
def print (s : Settings) : Text := Toml.print s.statements

end Settings

end CodeMigration
