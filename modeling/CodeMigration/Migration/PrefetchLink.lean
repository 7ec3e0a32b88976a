import CodeMigration.Migration
import CodeMigration.Rule.Import
import CodeMigration.Settings

/-!
# CodeMigration.Migration.PrefetchLink

Moves the link of an outer element into an inner one:

```text
<Outer href="/orders">Orders</Outer>
<Outer asChild><Inner href="/orders">Orders</Inner></Outer>
```

The import of the inner component is added where it is missing.
-/

namespace CodeMigration.PrefetchLink

/-- The name of the migration. -/
def name : String := "prefetch-link"

/-- What the migration does, in words. -/
def description : String := "Swap raw breadcrumb links for prefetching links"

/-- The group of the attribute's value. -/
def valueGroup : Nat := 1

/-- The group of the text inside the element. -/
def textGroup : Nat := 2

/-- The opening of an outer element up to its attribute, the attribute included. -/
def attributeStart (settings : PrefetchLinkSettings) : List Pattern :=
  [.literal "<", .word settings.outer.toList, Lexeme.blanks1, .word settings.linkAttribute.toList,
   Lexeme.blanks, .literal "="]

/-- An outer element with nothing but the attribute, whose value has the given
form. Its text ends at the first closing tag. -/
def element (settings : PrefetchLinkSettings) (value : Pattern) : Pattern :=
  .seqs (attributeStart settings ++
    [Lexeme.blanks, .group valueGroup value, Lexeme.blanks, .literal ">",
     .group textGroup (.few .full), .literal "</", .word settings.outer.toList, Lexeme.blanks,
     .literal ">"])

/-- An expression in braces, with braces inside it at most one level deep. -/
def bracedValue : Pattern :=
  let plain : CharSet := .noneOf ['\x7b', '\x7d']
  .seqs
    [.literal "\x7b",
     .star none true (.alt none (.one plain)
       (.seqs [.literal "\x7b", .many plain, .literal "\x7d"])),
     .literal "\x7d"]

/-- A string in quotes of either kind. -/
def quotedValue : Pattern :=
  .alts
    [.seqs [.literal "\"", .many (.noneOf ['"']), .literal "\""],
     .seqs [.literal "'", .many (.noneOf ['\'']), .literal "'"]]

/-- The nested elements that stand in place of one; value and text stay as they
are. -/
def wrapLink (settings : PrefetchLinkSettings) (m : Match) : Text :=
  let outer := settings.outer.toList
  let inner := settings.inner.toList
  '<' :: outer ++ ' ' :: settings.outerFlag.toList ++ '>' :: '<' :: inner ++
    ' ' :: settings.linkAttribute.toList ++ '=' :: m.group valueGroup ++ '>' :: m.group textGroup ++
    '<' :: '/' :: inner ++ '>' :: '<' :: '/' :: outer ++ ['>']

/-- The opening of an outer element. -/
def trigger (settings : PrefetchLinkSettings) : Trigger := .requiring ("<" ++ settings.outer)

/-- Imports the inner component where a link is found. -/
def importRule (settings : PrefetchLinkSettings) : ImportRule where
  id := name ++ "/import"
  trigger := trigger settings
  name := settings.inner.toList
  module := settings.innerModule.toList
  anchorModule := some settings.anchorModule.toList
  requiredUsage := some (.alts
    [.seqs (attributeStart settings),
     .seqs [.literal "<", .word settings.inner.toList, .boundary]])

/-- Moves links given by an expression. -/
def expressionRule (settings : PrefetchLinkSettings) : Substitution where
  id := name ++ "/expression-attr"
  trigger := trigger settings
  pattern := element settings bracedValue
  replace := wrapLink settings

/-- Moves links given by a string. -/
def stringRule (settings : PrefetchLinkSettings) : Substitution where
  id := name ++ "/string-attr"
  trigger := trigger settings
  pattern := element settings quotedValue
  replace := wrapLink settings

/-- The migration under the given settings. -/
def migration (settings : PrefetchLinkSettings) : Migration where
  name := name
  description := description
  rules := [(importRule settings).toRule, (expressionRule settings).toRule,
    (stringRule settings).toRule]
  excludes := []

/-- What the rules search for, in order. -/
def searched (settings : PrefetchLinkSettings) : List Searched :=
  [(importRule settings).searched, (expressionRule settings).searched, (stringRule settings).searched]

/-- Loads the migration under the given settings, whose names are part of its patterns. -/
def load (settings : PrefetchLinkSettings) : Except SettingsError Migration :=
  (migration settings).ifRoom (searched settings)

end CodeMigration.PrefetchLink
