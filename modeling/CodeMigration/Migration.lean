import CodeMigration.Failure
import CodeMigration.Rule

/-!
# CodeMigration.Migration

A migration is a list of rules. They apply in order, each to the result of the
one before; `Migration.migrate` says what became of a text.
-/

namespace CodeMigration

/-- A named list of rules. -/
structure Migration where
  /-- The name of the migration. -/
  name : String
  /-- What the migration does, in words. -/
  description : String
  /-- The rules in the order in which they apply. -/
  rules : List Rule
  /-- Globs of paths that the migration leaves alone. -/
  excludes : List String

/-- What became of a text. -/
structure Outcome where
  /-- The text before any rule. -/
  before : Text
  /-- The text after the last rule. -/
  after : Text
  /-- The ids of the rules that fired, in order. -/
  applied : List String
  deriving DecidableEq, Repr

/-- Did at least one rule fire? -/
def Outcome.changed (outcome : Outcome) : Bool := !outcome.applied.isEmpty

/-- The text after all rules, and the ids of those that fired. -/
def runRules : List Rule → Text → Text × List String
  | [], text => (text, [])
  | rule :: rules, text =>
    if rule.fires text then
      let (final, applied) := runRules rules (rule.apply text)
      (final, rule.id :: applied)
    else runRules rules text

namespace Migration

/-- The ids of the rules, in order. -/
def ruleIds (migration : Migration) : List String := migration.rules.map (·.id)

/-- The migration, if there is room for the matchers of its rules. The first rule for which
there is none is reported. -/
def ifRoom (migration : Migration) (searched : List Searched) : Except SettingsError Migration :=
  match searched.find? (!·.hasRoom) with
  | some rule => .error (.badPattern rule.ruleId)
  | none => .ok migration

/-- What becomes of a text. -/
def migrate (migration : Migration) (text : Text) : Outcome :=
  let (final, applied) := runRules migration.rules text
  ⟨text, final, applied⟩

/-- The migration written out for inspection. -/
def inspect (migration : Migration) : String :=
  "RuleSet \x7b name: " ++ Quoted.quote migration.name ++
    ", rules: " ++ Quoted.quoteList migration.ruleIds ++
    ", excludes: " ++ Quoted.quoteList migration.excludes ++ " \x7d"

end Migration

end CodeMigration
