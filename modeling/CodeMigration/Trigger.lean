import CodeMigration.Text
import CodeMigration.Text.Quoted

/-!
# CodeMigration.Trigger

Cheap preconditions of rules: words that a text must hold and words that it must
not hold.
-/

namespace CodeMigration

/-- A condition on the words that occur in a text. -/
structure Trigger where
  /-- Words that must all occur. -/
  requires : List String := []
  /-- Words none of which may occur. -/
  forbids : List String := []
  deriving DecidableEq, Repr

namespace Trigger

/-- The condition that every text meets. -/
def always : Trigger := {}

/-- The condition that a word occurs. -/
def requiring (word : String) : Trigger := { requires := [word] }

/-- Does the text meet the condition? -/
def isMet (trigger : Trigger) (text : Text) : Bool :=
  trigger.requires.all (fun word => Text.occurs word.toList text) &&
    !trigger.forbids.any (fun word => Text.occurs word.toList text)

/-- Does the condition name no word at all? -/
def isAlways (trigger : Trigger) : Bool := trigger.requires.isEmpty && trigger.forbids.isEmpty

/-- The condition written out for inspection. -/
def inspect (trigger : Trigger) : String :=
  "Trigger \x7b requires: " ++ Quoted.quoteList trigger.requires ++
    ", forbids: " ++ Quoted.quoteList trigger.forbids ++ " \x7d"

@[simp] theorem isMet_always (text : Text) : always.isMet text = true := rfl

theorem isMet_requiring (word : String) (text : Text) :
    (requiring word).isMet text = Text.occurs word.toList text := by
  simp [requiring, isMet]

end Trigger

end CodeMigration
