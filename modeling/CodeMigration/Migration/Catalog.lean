import CodeMigration.Failure
import CodeMigration.Migration.NamedExports
import CodeMigration.Migration.PrefetchLink
import CodeMigration.Migration.TypedClient

/-!
# CodeMigration.Migration.Catalog

The migrations there are: the built-in ones, then those of the settings. A custom
migration may not take the name of a built-in one. Patterns are read when a migration
is loaded, so settings with a pattern that cannot be read fail before any file is
looked at. The names in the settings of a built-in migration are part of its patterns,
which can be read unless a name is so long that there is no room for a matcher.
-/

namespace CodeMigration.Catalog

/-- The names of the built-in migrations. -/
def builtinNames : List String := [TypedClient.name, PrefetchLink.name, NamedExports.name]

/-- Is the name that of a built-in migration? -/
def isBuiltin (name : String) : Bool := builtinNames.contains name

/-- The names of all migrations, built-in ones first. -/
def available (settings : Settings) : List String :=
  builtinNames ++ settings.migrations.map (·.1)

/-- A rule of a custom migration. -/
def customRule (migration : String) (rule : CustomRule) : Except SettingsError Rule :=
  let id := migration ++ "/" ++ rule.id
  match Substitution.ofTemplate? id ⟨rule.requires, rule.forbids⟩ rule.pattern rule.replacement with
  | some s => .ok s.toRule
  | none => .error (.badPattern id)

/-- A custom migration. Every pattern has to be readable. -/
def custom (name : String) (migration : CustomMigration) : Except SettingsError Migration := do
  let rules ← migration.rules.mapM (customRule name)
  return ⟨name, migration.description.getD ("Custom migration '" ++ name ++ "'"), rules,
    migration.exclude⟩

/-- Refuses settings in which a custom migration takes the name of a built-in one. -/
def validate (settings : Settings) : Except SettingsError Unit :=
  match (settings.migrations.map (·.1)).find? isBuiltin with
  | some name => .error (.nameTaken name)
  | none => .ok ()

/-- The migration of the given name. -/
def load (name : String) (settings : Settings) : Except Failure Migration := do
  (validate settings).mapError .settings
  if name = TypedClient.name then (TypedClient.load settings.typedClient).mapError .settings
  else if name = PrefetchLink.name then (PrefetchLink.load settings.prefetchLink).mapError .settings
  else if name = NamedExports.name then NamedExports.load.mapError .settings
  else
    match settings.migrations.lookup name with
    | some migration => (custom name migration).mapError .settings
    | none => .error (.unknownMigration name (available settings))

/-- All migrations there are. -/
def loadAll (settings : Settings) : Except Failure (List Migration) :=
  (available settings).mapM fun name => load name settings

end CodeMigration.Catalog
