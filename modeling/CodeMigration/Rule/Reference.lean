import CodeMigration.Pattern.Lexeme
import CodeMigration.Rule

/-!
# CodeMigration.Rule.Reference

Rules that repair references. Once a variable holds a wrapped value, some of its
members have to be taken from the raw value still; the rule redirects
`x.member.` to `raw.member.` for every `x` bound to `wrapper(raw)`.
-/

namespace CodeMigration

/-- A rule that redirects a member of wrapped variables to the raw value. -/
structure ReferenceRule where
  /-- The name of the rule. -/
  id : String
  /-- When the rule looks at a text. -/
  trigger : Trigger
  /-- The function whose call wraps a value. -/
  wrapper : Text
  /-- The variable that holds the raw value. -/
  target : Text
  /-- The member that is taken from the raw value. -/
  accessor : Text

namespace ReferenceRule

/-- The group of the variable's name. -/
def nameGroup : Nat := 1

/-- Variables that are bound to the wrapped value. -/
def binding (rule : ReferenceRule) : Pattern :=
  .seqs
    [.group nameGroup Lexeme.identifier, Lexeme.blanks, .literal "=", Lexeme.blanks,
     .word rule.wrapper, .literal "(", Lexeme.blanks, .word rule.target, Lexeme.blanks,
     .literal ")"]

/-- References to the member of a variable. -/
def reference (rule : ReferenceRule) : Pattern :=
  .seqs
    [.group nameGroup Lexeme.identifier, Lexeme.blanks, .literal ".", Lexeme.blanks,
     .word rule.accessor, Lexeme.blanks, .literal "."]

/-- The names of the variables that are bound to the wrapped value, other than the
raw variable itself. -/
def wrapped (rule : ReferenceRule) (text : Text) : List Text :=
  ((rule.binding.matchesIn text).map fun m => m.group nameGroup).filter (· != rule.target)

/-- What stands in place of a reference: members of other objects and of variables
that are not wrapped stay as they are. -/
def redirect (rule : ReferenceRule) (names : List Text) (m : Match) : Text :=
  if m.start.before.head? != some '.' && names.contains (m.group nameGroup) then
    rule.target ++ '.' :: rule.accessor ++ ['.']
  else m.text

/-- Does the rule find no variable to redirect, or no reference at all? -/
def isIdle (rule : ReferenceRule) (text : Text) : Bool :=
  (rule.wrapped text).isEmpty || !rule.reference.isMatch text

/-- The text with the references to wrapped variables redirected. -/
def apply (rule : ReferenceRule) (text : Text) : Text :=
  if (rule.wrapped text).isEmpty then text
  else rule.reference.replaceAll (rule.redirect (rule.wrapped text)) text

/-- What the reference rule searches for. -/
def searched (rule : ReferenceRule) : Searched := ⟨rule.id, [rule.binding, rule.reference]⟩

/-- The reference rule as a rule. -/
def toRule (rule : ReferenceRule) : Rule := ⟨rule.id, rule.trigger.isMet, rule.apply⟩

end ReferenceRule

end CodeMigration
