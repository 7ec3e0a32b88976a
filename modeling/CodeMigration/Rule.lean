import CodeMigration.Pattern.Parser
import CodeMigration.Template
import CodeMigration.Trigger

/-!
# CodeMigration.Rule

Rules, the smallest units of a migration. A rule is known by its id, says by its
trigger whether it looks at a text at all, and then replaces what it finds. A
rule *fires* on a text when its trigger is met and its result differs from the
text.

`Substitution` is the kind of rule that replaces every match of a pattern.
-/

namespace CodeMigration

/-- A rule of a migration. -/
structure Rule where
  /-- The name under which reports mention the rule. -/
  id : String
  /-- Does the rule look at the text at all? -/
  trigger : Text → Bool
  /-- The text after the rule. -/
  apply : Text → Text

namespace Rule

/-- Does the rule change the text? -/
def fires (rule : Rule) (text : Text) : Bool :=
  rule.trigger text && rule.apply text != text

/-- The text after the rule, which is the text itself if the rule does not fire. -/
def run (rule : Rule) (text : Text) : Text :=
  if rule.fires text then rule.apply text else text

end Rule

/-- What a rule searches for. -/
structure Searched where
  /-- The name of the rule. -/
  ruleId : String
  /-- The patterns that the rule needs matchers for. -/
  patterns : List Pattern

/-- Is there room for a matcher for each of the patterns? -/
def Searched.hasRoom (searched : Searched) : Bool := searched.patterns.all Pattern.hasRoom

/-- A rule that replaces every match of a pattern. -/
structure Substitution where
  /-- The name of the rule. -/
  id : String
  /-- When the rule looks at a text. -/
  trigger : Trigger
  /-- What is replaced. -/
  pattern : Pattern
  /-- What stands in place of a match. -/
  replace : Match → Text

namespace Substitution

/-- A rule with a written pattern and a replacement template; there is none if the
pattern cannot be read. -/
def ofTemplate? (id : String) (trigger : Trigger) (pattern template : String) :
    Option Substitution := do
  let named ← NamedPattern.parse? pattern.toList
  let parts := TemplatePart.readAll template.toList
  return ⟨id, trigger, named.pattern, expandTemplate named.names parts⟩

/-- What the substitution searches for. -/
def searched (s : Substitution) : Searched := ⟨s.id, [s.pattern]⟩

/-- Does the pattern match nowhere in the text? -/
def isIdle (s : Substitution) (text : Text) : Bool := !s.pattern.isMatch text

/-- The text with every match replaced. -/
def apply (s : Substitution) (text : Text) : Text := s.pattern.replaceAll s.replace text

/-- The substitution as a rule. -/
def toRule (s : Substitution) : Rule := ⟨s.id, s.trigger.isMet, s.apply⟩

end Substitution

end CodeMigration
