import CodeMigration.Migration
import CodeMigration.Path
import CodeMigration.Pattern.Lexeme

/-!
# CodeMigration.Migration.NamedExports

Turns default exports into named ones, and default imports of the changed modules
into named imports. Entry points of the framework have to keep their default
exports and are left alone.
-/

namespace CodeMigration.NamedExports

/-- The name of the migration. -/
def name : String := "named-exports"

/-- What the migration does, in words. -/
def description : String := "Convert default exports to named exports"

/-- The directory that the import alias stands for, below the project. -/
def sourceRoot : Path := ⟨"src"⟩

/-- The alias under which modules are imported. -/
def importAlias : String := "@/"

/-- Files that keep their default exports. -/
def frameworkFiles : List String :=
  ["**/\x7bpage,layout,error,not-found,loading,template,default,global-error\x7d" ++
     ".\x7bts,tsx,js,jsx\x7d",
   "**/route.\x7bts,js\x7d",
   "**/middleware.\x7bts,js\x7d",
   "**/*.config.*"]

/-! ### Declarations with a default export -/

/-- The group of a declaration without its export, and of an exported name. -/
def exportGroup : Nat := 1

/-- The words of a default export and the space behind them. -/
def exportDefault : List Pattern :=
  [.literal "export", Lexeme.blanks1, .literal "default", Lexeme.blanks1]

/-- The space behind the word for a function, or its star with any space. -/
def functionGap : Pattern :=
  .alt none (.seqs [Lexeme.blanks, .literal "*", Lexeme.blanks]) Lexeme.blanks1

/-- The word that makes a function asynchronous, with the space behind it. -/
def optionalAsync : Pattern := .optional (.seq (.literal "async") Lexeme.blanks1)

/-- The declaration of a function. -/
def functionDeclaration : Pattern :=
  .seqs [optionalAsync, .literal "function", functionGap, Lexeme.identifier]

/-- The declaration of a class. -/
def classDeclaration : Pattern :=
  .seqs [.literal "class", Lexeme.blanks1, Lexeme.identifier]

/-- A default export of a declaration. -/
def exportOf (declaration : Pattern) : Pattern :=
  .seqs (.boundary :: exportDefault ++ [.group exportGroup declaration])

/-- The named export that stands in place of a default export. -/
def exportNamed (m : Match) : Text := "export ".toList ++ m.group exportGroup

/-- A rule for default exports of one kind of declaration. -/
def declarationRule (kind : String) (declaration : Pattern) : Substitution where
  id := name ++ "/" ++ kind
  trigger := .requiring "export default"
  pattern := exportOf declaration
  replace := exportNamed

/-- Exports functions by name. -/
def functionRule : Substitution := declarationRule "function" functionDeclaration

/-- Exports classes by name. -/
def classRule : Substitution := declarationRule "class" classDeclaration

/-! ### Default exports on a line of their own -/

/-- A line that exports a name as the default, with its line end. -/
def trailingDefault : Pattern :=
  .seqs (Lexeme.lineStart :: exportDefault ++
    [.group exportGroup Lexeme.identifier, Lexeme.lineBlanks, .optional (.literal ";"),
     Lexeme.lineBlanks,
     .alt none (.seq (.optional (.literal "\r")) (.literal "\n")) (.look .lineEnd)])

/-- A declaration of the name that begins a line. -/
def declarationOf (name : Text) : Pattern :=
  .seqs
    [Lexeme.lineStart, optionalAsync,
     .alt none (.seq (.literal "function") functionGap)
       (.seq (.alts [.literal "class", .literal "const", .literal "let", .literal "var"])
         Lexeme.blanks1),
     .word name, .boundary]

/-- Where the first declaration of the name begins. The name is one of the text, and there is
taken to be room for a matcher for it, however long it is. -/
def declarationStart? (text name : Text) : Option Cursor :=
  ((declarationOf name).find? text).map (·.start)

/-- A change of a text at one place: some characters are taken away and others put
in. -/
structure Edit where
  /-- How many characters stand before the place. -/
  offset : Nat
  /-- How many characters are taken away. -/
  removed : Nat
  /-- What is put in. -/
  inserted : Text
  deriving DecidableEq, Repr

/-- Carries out edits in the order of their offsets. `offset` is that of the text;
an edit that lies before it is passed over. -/
def applyEdits (offset : Nat) (text : Text) : List Edit → Text
  | [] => text
  | edit :: edits =>
    if edit.offset < offset then applyEdits offset text edits
    else
      let gap := edit.offset - offset
      text.take gap ++ edit.inserted ++
        applyEdits (edit.offset + edit.removed) (text.drop (gap + edit.removed)) edits

/-- The edits that move the default exports of the text to the declarations. -/
def trailingEdits (text : Text) : List Edit :=
  (trailingDefault.matchesIn text).flatMap fun m =>
    match declarationStart? text (m.group exportGroup) with
    -- A line whose name is declared nowhere stays.
    | none => []
    | some start =>
      [⟨start.offset, 0, "export ".toList⟩,
       ⟨m.start.offset, m.stop.offset - m.start.offset, []⟩]

/-- The edits in the order of their offsets; edits at one place keep their order. -/
def sortEdits (edits : List Edit) : List Edit := edits.mergeSort fun a b => a.offset ≤ b.offset

/-- The text with its default exports moved to the declarations. -/
def moveTrailing (text : Text) : Text := applyEdits 0 text (sortEdits (trailingEdits text))

/-- Exports a declaration in place of a default export on a line of its own. -/
def trailingRule : Rule where
  id := name ++ "/trailing-default"
  trigger := Text.occurs "export default".toList
  apply := moveTrailing

/-- The migration of the exporting files. -/
def migration : Migration where
  name := name
  description := description
  rules := [functionRule.toRule, classRule.toRule, trailingRule]
  excludes := frameworkFiles

/-- What the rules search for that have patterns of their own, in order. -/
def searched : List Searched := [functionRule.searched, classRule.searched]

/-- Loads the migration of the exporting files. -/
def load : Except SettingsError Migration := migration.ifRoom searched

/-! ### Changed modules -/

/-- A module whose default export becomes a named one. -/
structure ConvertedModule where
  /-- The alias by which the module is imported. -/
  specifier : String
  /-- The name that the module exports afterwards. -/
  exported : String
  deriving DecidableEq, Repr

/-- A default export of a named function or class. -/
def defaultDeclaration : Pattern :=
  .seqs (.boundary :: exportDefault ++
    [optionalAsync,
     .alt none (.seq (.literal "function") functionGap) (.seq (.literal "class") Lexeme.blanks1),
     .group exportGroup Lexeme.identifier])

/-- The name of the default export that the migration will change. -/
def defaultExportName? (text : Text) : Option Text :=
  match defaultDeclaration.find? text with
  | some m => some (m.group exportGroup)
  | none =>
    ((trailingDefault.matchesIn text).map fun m => m.group exportGroup).find? fun name =>
      (declarationStart? text name).isSome

/-- The names of a module's path below the root, the last one without its
extension. -/
def moduleNames (components : List Component) : List String :=
  let readLast (last : Component) : Option Component :=
    match last with
    | .name s => Path.component? (Path.splitExtension s).1.toList
    | other => some other
  match components.getLast? with
  | none => []
  | some last =>
    (components.dropLast.map some ++ [readLast last]).filterMap fun c => c.bind Component.name?

/-- The aliases by which a file is imported. An index file also answers to its
directory. -/
def moduleSpecifiers (root file : Path) : List String :=
  match file.relativeTo? root with
  | none => []
  | some components =>
    let names := moduleNames components
    let specifier (names : List String) := importAlias ++ "/".intercalate names
    match names.getLast? with
    | none => []
    | some last =>
      specifier names ::
        (if last == "index" && 1 < names.length then [specifier names.dropLast] else [])

/-- The modules among the files whose default export becomes a named one. -/
def convertedModules (root : Path) (files : List (Path × Text)) : List ConvertedModule :=
  files.flatMap fun (path, text) =>
    match defaultExportName? text with
    | none => []
    | some exported => (moduleSpecifiers root path).map (⟨·, String.ofList exported⟩)

/-! ### Importing files -/

/-- The group of the local name. -/
def localGroup : Nat := 1

/-- The group of the opening quote. -/
def openGroup : Nat := 2

/-- The group of the module. -/
def moduleGroup : Nat := 3

/-- The group of the closing quote. -/
def closeGroup : Nat := 4

/-- A default import of one of the modules. -/
def defaultImport (specifiers : List Text) : Pattern :=
  .seqs
    [.boundary, .literal "import", Lexeme.blanks1, .group localGroup Lexeme.identifier,
     Lexeme.blanks1, .literal "from", Lexeme.blanks1, .group openGroup Lexeme.quote,
     .group moduleGroup (.alts (specifiers.map Pattern.word)), .group closeGroup Lexeme.quote]

/-- The name that a module exports; of several entries the last one counts. -/
def exportOf? (modules : List ConvertedModule) (specifier : Text) : Option String :=
  (modules.reverse.find? fun m => m.specifier.toList == specifier).map (·.exported)

/-- The named import that stands in place of a default import. A local name of its
own is kept. -/
def importNamed (modules : List ConvertedModule) (m : Match) : Text :=
  match exportOf? modules (m.group moduleGroup) with
  | none => m.text
  | some exported =>
    let localName := m.group localGroup
    let binding :=
      if exported.toList == localName then exported.toList
      else exported.toList ++ " as ".toList ++ localName
    "import \x7b ".toList ++ binding ++ " \x7d from ".toList ++ m.group openGroup ++
      m.group moduleGroup ++ m.group closeGroup

/-- Imports the changed modules by name. There is taken to be room for a matcher for the modules,
however many they are. -/
def importersRule (modules : List ConvertedModule) : Substitution where
  id := name ++ "/importers"
  trigger := .requiring importAlias
  pattern := defaultImport (modules.map (·.specifier.toList))
  replace := importNamed modules

/-- The rules for importing files; there is none if no module changes. -/
def importersRules (modules : List ConvertedModule) : List Rule :=
  if modules.isEmpty then [] else [(importersRule modules).toRule]

/-- The migration of files that only import changed modules. -/
def importersMigration (modules : List ConvertedModule) : Migration where
  name := name
  description := description
  rules := importersRules modules
  excludes := []

/-- The migration of files that export and import. -/
def fullMigration (modules : List ConvertedModule) : Migration :=
  { migration with rules := migration.rules ++ importersRules modules }

end CodeMigration.NamedExports
