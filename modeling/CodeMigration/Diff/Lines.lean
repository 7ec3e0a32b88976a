import CodeMigration.Text

/-!
# CodeMigration.Diff.Lines

The lines of a text, each with its end. A line feed, a carriage return or the two
together end a line; only the last line can be without an end.
-/

namespace CodeMigration.Diff

/-- The lines of a text with their ends. -/
def linesOf (text : Text) : List Text := collect text []
where
  /-- Continues with the characters of the current line, in reverse. -/
  collect : Text → Text → List Text
    | [], line => if line.isEmpty then [] else [line.reverse]
    | '\r' :: '\n' :: rest, line => ('\n' :: '\r' :: line).reverse :: collect rest []
    | '\r' :: rest, line => ('\r' :: line).reverse :: collect rest []
    | '\n' :: rest, line => ('\n' :: line).reverse :: collect rest []
    | c :: rest, line => collect rest (c :: line)

/-- Does the line have an end? -/
def hasEnd (line : Text) : Bool := Text.endsWith '\n' line || Text.endsWith '\r' line

/-- The lines put together are the text. -/
theorem flatten_collect (text line : Text) :
    (linesOf.collect text line).flatten = line.reverse ++ text := by
  fun_induction linesOf.collect text line <;> simp_all

theorem flatten_linesOf (text : Text) : (linesOf text).flatten = text := by
  simp [linesOf, flatten_collect]

end CodeMigration.Diff
