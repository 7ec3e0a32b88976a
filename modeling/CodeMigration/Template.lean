import CodeMigration.Pattern.Match

/-!
# CodeMigration.Template

Replacement templates. `$name` and `$1` stand for a group, with the longest
possible name; `${name}` stands for a group with any name; `$$` is a dollar sign;
a dollar sign before anything else stands for itself.
-/

namespace CodeMigration

/-- A part of a replacement template. -/
inductive TemplatePart
  /-- A character that is copied. -/
  | char (c : Char)
  /-- A reference to a group by number or by name. -/
  | group (name : Text)
  deriving DecidableEq, Repr

namespace TemplatePart

/-- May the character stand in a group name without braces? -/
def isNameChar (c : Char) : Bool := c.isAlphanum || c == '_'

/-- Reads the parts of a template. A reference without a closing brace is no
reference, and neither is a dollar sign that no name follows. -/
def readAll : Text → List TemplatePart
  | [] => []
  | '$' :: '$' :: rest => char '$' :: readAll rest
  | '$' :: '\x7b' :: rest =>
    if rest.contains '\x7d' then
      group (rest.takeWhile (· != '\x7d')) :: readAll ((rest.dropWhile (· != '\x7d')).drop 1)
    else char '$' :: readAll ('\x7b' :: rest)
  | '$' :: rest =>
    if (rest.takeWhile isNameChar).isEmpty then char '$' :: readAll rest
    else group (rest.takeWhile isNameChar) :: readAll (rest.dropWhile isNameChar)
  | c :: rest => char c :: readAll rest
termination_by text => text.length
decreasing_by
  all_goals
    have hbrace := (List.dropWhile_sublist (l := rest) (· != '\x7d')).length_le
    have hname := (List.dropWhile_sublist (l := rest) isNameChar).length_le
    simp only [List.length_cons, List.length_drop]
    omega

end TemplatePart

/-- The number of a group, given by its number, which may have a plus sign, or by
its name. -/
def groupIndex? (names : List (String × Nat)) (name : Text) : Option Nat :=
  let digits := if name.head? == some '+' then name.drop 1 else name
  if !digits.isEmpty && digits.all Char.isDigit then (String.ofList digits).toNat?
  else names.lookup (String.ofList name)

/-- The text that a template makes of a match. References to groups that do not
exist or took no part in the match give nothing. -/
def expandTemplate (names : List (String × Nat)) (parts : List TemplatePart) (m : Match) : Text :=
  parts.flatMap fun
    | .char c => [c]
    | .group name => ((groupIndex? names name).map m.group).getD []

end CodeMigration
