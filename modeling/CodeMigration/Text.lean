import CodeMigration.Unicode.Basic

/-!
# CodeMigration.Text

Source texts as lists of characters, with the few operations that rules need:
searching for a word, splitting and trimming.
-/

namespace CodeMigration

/-- A source text. -/
abbrev Text := List Char

namespace Text

/-- Does the word stand somewhere in the text? The empty word always does. -/
def occurs (word : Text) : Text → Bool
  | [] => word.isEmpty
  | c :: rest => word.isPrefixOf (c :: rest) || occurs word rest

/-- The parts of the text between the separators. There is one part more than
there are separators. -/
def splitAtChar (separator : Char) : Text → List Text
  | [] => [[]]
  | c :: rest =>
    if c == separator then [] :: splitAtChar separator rest
    else
      match splitAtChar separator rest with
      | [] => [[c]]
      | part :: parts => (c :: part) :: parts

/-- The parts of the text between white space, none of them empty. -/
def words (text : Text) : List Text := collect text []
where
  /-- Continues with the characters of the current word, in reverse. -/
  collect : Text → Text → List Text
    | [], word => if word.isEmpty then [] else [word.reverse]
    | c :: rest, word =>
      if Unicode.isSpace c then
        if word.isEmpty then collect rest [] else word.reverse :: collect rest []
      else collect rest (c :: word)

/-- The text without the white space at its start. -/
def trimStart (text : Text) : Text := text.dropWhile Unicode.isSpace

/-- The text without the white space at its end. -/
def trimEnd (text : Text) : Text := (text.reverse.dropWhile Unicode.isSpace).reverse

/-- The white space at the end of the text. -/
def trailingSpace (text : Text) : Text := (text.reverse.takeWhile Unicode.isSpace).reverse

/-- The white space at the start of the text. -/
def leadingSpace (text : Text) : Text := text.takeWhile Unicode.isSpace

/-- Does the text consist of white space alone? -/
def isBlank (text : Text) : Bool := text.all Unicode.isSpace

/-- Is the character the last one of the text? -/
def endsWith (c : Char) (text : Text) : Bool := text.getLast? == some c

/-- The part of the text behind its last line feed. -/
def lastLine (text : Text) : Text := (text.reverse.takeWhile (· != '\n')).reverse

/-- A text falls into what is left after trimming its end and the space there. -/
theorem trimEnd_append_trailingSpace (text : Text) :
    trimEnd text ++ trailingSpace text = text := by
  rw [trimEnd, trailingSpace, ← List.reverse_append, List.takeWhile_append_dropWhile,
    List.reverse_reverse]

end Text

end CodeMigration
