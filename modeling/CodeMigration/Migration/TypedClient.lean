import CodeMigration.Migration
import CodeMigration.Rule.Import
import CodeMigration.Rule.Reference
import CodeMigration.Settings

/-!
# CodeMigration.Migration.TypedClient

Wraps clients that a factory creates:

```text
const db = await createClient()          const client = await createClient()
                                         const db = typed(client)
db.auth.getUser()                        client.auth.getUser()
```

The import of the wrapper is added where it is missing.
-/

namespace CodeMigration.TypedClient

/-- The name of the migration. -/
def name : String := "typed-client"

/-- What the migration does, in words. -/
def description : String := "Wrap factory-created clients in a typed wrapper"

/-! ### Call sites -/

/-- The group of the indentation. -/
def indentGroup : Nat := 1

/-- The group of the declaring keyword. -/
def keywordGroup : Nat := 2

/-- The group of the declared name. -/
def nameGroup : Nat := 3

/-- The group of the word that awaits the result, with the space behind it. -/
def awaitGroup : Nat := 4

/-- The group of the arguments. -/
def argumentsGroup : Nat := 5

/-- The group of the semicolon. -/
def semicolonGroup : Nat := 6

/-- A declaration whose value is a call of the factory. -/
def declaration (factory : Text) : Pattern :=
  .seqs
    [Lexeme.lineStart, .group indentGroup Lexeme.lineBlanks,
     .group keywordGroup (.alts [.literal "const", .literal "let", .literal "var"]),
     Lexeme.blanks1, .group nameGroup Lexeme.identifier, Lexeme.blanks, .literal "=",
     Lexeme.blanks,
     .optional (.group awaitGroup (.seq (.literal "await") Lexeme.blanks1)),
     .word factory, .literal "(",
     .group argumentsGroup (.many (.noneOf ['(', ')', '\n'])), .literal ")",
     .group semicolonGroup (.optional (.literal ";"))]

/-- The two declarations that stand in place of one: the raw value, and the
wrapped value under the old name. A declaration of the raw value itself stays. -/
def wrapCall (settings : TypedClientSettings) (m : Match) : Text :=
  let intermediate := settings.intermediate.toList
  if m.group nameGroup == intermediate then m.text
  else
    let start := m.group indentGroup ++ m.group keywordGroup ++ [' ']
    let semicolon := m.group semicolonGroup
    start ++ intermediate ++ " = ".toList ++ m.group awaitGroup ++ settings.factory.toList ++
      '(' :: m.group argumentsGroup ++ ')' :: semicolon ++ '\n' ::
      start ++ m.group nameGroup ++ " = ".toList ++ settings.wrapper.toList ++
      '(' :: intermediate ++ ')' :: semicolon

/-- Replaces declarations by two. -/
def callSite (settings : TypedClientSettings) : Substitution where
  id := name ++ "/call-site"
  trigger := .requiring (settings.factory ++ "(")
  pattern := declaration settings.factory.toList
  replace := wrapCall settings

/-! ### Imports and references -/

/-- The call that wraps the raw value. -/
def wrappedCall (settings : TypedClientSettings) : String :=
  settings.wrapper ++ "(" ++ settings.intermediate ++ ")"

/-- Imports the wrapper where it is called. -/
def importRule (settings : TypedClientSettings) : ImportRule where
  id := name ++ "/import"
  trigger := .requiring (wrappedCall settings)
  name := settings.wrapper.toList
  module := settings.wrapperModule.toList
  anchorModule := some settings.anchorModule.toList
  requiredUsage := some (.seqs
    [.boundary, .word settings.wrapper.toList, .literal "(", Lexeme.blanks,
     .word settings.intermediate.toList, Lexeme.blanks, .literal ")"])

/-- Takes the accessor from the raw value. -/
def referenceRule (settings : TypedClientSettings) : ReferenceRule where
  id := name ++ "/" ++ settings.accessor ++ "-reference"
  trigger := { requires := [wrappedCall settings, "." ++ settings.accessor ++ "."] }
  wrapper := settings.wrapper.toList
  target := settings.intermediate.toList
  accessor := settings.accessor.toList

/-- The migration under the given settings. -/
def migration (settings : TypedClientSettings) : Migration where
  name := name
  description := description
  rules := [(callSite settings).toRule, (importRule settings).toRule,
    (referenceRule settings).toRule]
  excludes := []

/-- What the rules search for, in order. -/
def searched (settings : TypedClientSettings) : List Searched :=
  [(callSite settings).searched, (importRule settings).searched, (referenceRule settings).searched]

/-- Loads the migration under the given settings, whose names are part of its patterns. -/
def load (settings : TypedClientSettings) : Except SettingsError Migration :=
  (migration settings).ifRoom (searched settings)

end CodeMigration.TypedClient
