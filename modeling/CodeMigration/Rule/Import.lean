import CodeMigration.Pattern.Lexeme
import CodeMigration.Rule

/-!
# CodeMigration.Rule.Import

Rules that make sure of an import. A text that lacks the import gets it in one of
three ways, by preference:

1. the braces of an existing import of values from the module are extended;
2. a new line goes behind an import from the anchor module;
3. a new line goes above the first line that matches the usage anchor.

Where none of these is possible the text stays as it is.
-/

namespace CodeMigration

/-- How an import is added. -/
inductive ImportStrategy
  /-- The name is added to the braces of an existing import. -/
  | extendExisting
  /-- A new line goes behind the anchor import. -/
  | afterAnchor
  /-- A new line goes above the usage anchor. -/
  | nearUsage
  deriving DecidableEq, Repr

/-- A rule that makes sure a name is imported from a module. -/
structure ImportRule where
  /-- The name of the rule. -/
  id : String
  /-- When the rule looks at a text. -/
  trigger : Trigger
  /-- What has to be imported. -/
  name : Text
  /-- Where it has to be imported from. -/
  module : Text
  /-- The module whose import a new line follows. -/
  anchorModule : Option Text := none
  /-- What a new line goes above if there is no anchor import. -/
  usageAnchor : Pattern := .seqs [Lexeme.lineStart, .literal "import", .boundary]
  /-- What has to occur for an import to be added at all. -/
  requiredUsage : Option Pattern := none

namespace ImportRule

/-- The group of the word that marks an import of types. -/
def kindGroup : Nat := 1

/-- The group of the text between the braces. -/
def namesGroup : Nat := 2

/-- Imports in braces from a module, with or without a default import. -/
def importsFrom (module : Text) : Pattern :=
  .seqs
    [.boundary, .literal "import", Lexeme.blanks,
     .optional (.seqs [.group kindGroup (.literal "type"), .boundary, Lexeme.blanks]),
     .optional (.seqs [Lexeme.identifier, Lexeme.blanks, .literal ",", Lexeme.blanks]),
     .literal "\x7b", .group namesGroup (.many (.noneOf ['\x7d'])), .literal "\x7d",
     Lexeme.blanks, .literal "from", Lexeme.blanks, Lexeme.quoted module]

/-- An import statement from a module that begins a line, up to its semicolon. -/
def anchorOn (module : Text) : Pattern :=
  .seqs
    [Lexeme.lineStart, .literal "import", .boundary, .few (.noneOf [';']), .boundary,
     .literal "from", Lexeme.blanks, Lexeme.quoted module, Lexeme.lineBlanks,
     .optional (.literal ";")]

/-- The name that an entry of an import list brings in: its first word, or the
second if the first marks a type. -/
def importedName (entry : Text) : Option Text :=
  match Text.words entry with
  | first :: rest => if first == "type".toList then rest.head? else some first
  | [] => none

/-- Is the name among the entries of an import list? -/
def lists (name body : Text) : Bool :=
  (Text.splitAtChar ',' body).any fun entry => importedName entry == some name

/-- Is the name already imported from the module? Imports of types count. -/
def isSatisfied (rule : ImportRule) (text : Text) : Bool :=
  ((importsFrom rule.module).matchesIn text).any fun m => lists rule.name (m.group namesGroup)

/-- The ends of the braces list of the first import of values from the module. -/
def extendable? (rule : ImportRule) (text : Text) : Option (Cursor × Cursor) :=
  (((importsFrom rule.module).matchesIn text).filter
    fun m => (m.span? kindGroup).isNone).findSome? fun m => m.span? namesGroup

/-- The first import from the anchor module. -/
def anchor? (rule : ImportRule) (text : Text) : Option Match :=
  rule.anchorModule.bind fun module => (anchorOn module).find? text

/-- The way in which the import is added to the text, if it is added. -/
def strategy (rule : ImportRule) (text : Text) : Option ImportStrategy :=
  if rule.isSatisfied text then none
  else if rule.requiredUsage.any fun usage => !usage.isMatch text then none
  else if (rule.extendable? text).isSome then some .extendExisting
  else if (rule.anchor? text).isSome then some .afterAnchor
  else if rule.usageAnchor.isMatch text then some .nearUsage
  else none

/-- The line that imports the name. -/
def importLine (rule : ImportRule) (semicolon : Bool) : Text :=
  "import \x7b ".toList ++ rule.name ++ " \x7d from '".toList ++ rule.module ++
    (if semicolon then "';".toList else "'".toList)

/-- An import list with a name added at its end. A trailing comma and the white
space behind it stay last; in a list of several lines the name gets a line of its
own, with the indentation of the line before. -/
def extendList (name body : Text) : Text :=
  let trimmed := Text.trimEnd body
  let tail := Text.trailingSpace body
  let hasComma := Text.endsWith ',' trimmed
  let head := if hasComma then trimmed.dropLast else trimmed
  let comma : Text := if hasComma then [','] else []
  if Text.isBlank head then ' ' :: name ++ [' ']
  else if body.contains '\n' then
    head ++ ",\n".toList ++ Text.leadingSpace (Text.lastLine head) ++ name ++ comma ++ tail
  else head ++ ", ".toList ++ name ++ comma ++ tail

/-- The text with the name added to an existing import. -/
def extendExisting (rule : ImportRule) (text : Text) : Text :=
  match rule.extendable? text with
  | none => text
  | some (start, stop) =>
    start.before.reverse ++ extendList rule.name (start.textUntil stop) ++ stop.after

/-- The text with a new line behind the anchor import. -/
def insertAfterAnchor (rule : ImportRule) (text : Text) : Text :=
  match rule.anchor? text with
  | none => text
  | some m =>
    m.stop.before.reverse ++ '\n' :: rule.importLine (Text.endsWith ';' m.text) ++ m.stop.after

/-- The text with a new line above the line of the usage anchor. The new line ends
with a semicolon if that line does. -/
def insertNearUsage (rule : ImportRule) (text : Text) : Text :=
  match rule.usageAnchor.find? text with
  | none => text
  | some m =>
    let lineHead := (m.start.before.takeWhile (· != '\n')).reverse
    let above := (m.start.before.dropWhile (· != '\n')).reverse
    let line := lineHead ++ m.start.after.takeWhile (· != '\n')
    above ++ rule.importLine (Text.endsWith ';' (Text.trimEnd line)) ++
      '\n' :: lineHead ++ m.start.after

/-- The text with the import added where it is missing. -/
def apply (rule : ImportRule) (text : Text) : Text :=
  match rule.strategy text with
  | some .extendExisting => rule.extendExisting text
  | some .afterAnchor => rule.insertAfterAnchor text
  | some .nearUsage => rule.insertNearUsage text
  | none => text

/-- What the import rule searches for. -/
def searched (rule : ImportRule) : Searched where
  ruleId := rule.id
  patterns := importsFrom rule.module :: (rule.anchorModule.map anchorOn).toList ++
    rule.requiredUsage.toList ++ [rule.usageAnchor]

/-- The import rule as a rule. -/
def toRule (rule : ImportRule) : Rule := ⟨rule.id, rule.trigger.isMet, rule.apply⟩

end ImportRule

end CodeMigration
