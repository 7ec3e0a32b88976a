import CodeMigration.Pattern.Match

/-!
# CodeMigration.Pattern.Lexeme

The pieces of source code that the patterns of the built-in rules are made of:
identifiers, blanks, quotes.
-/

namespace CodeMigration.Lexeme

/-- The characters an identifier can begin with. -/
def identifierStart : CharSet := .union .asciiAlpha (.ofList ['_', '$'])

/-- The characters an identifier can go on with. -/
def identifierPart : CharSet := .union .word (.single '$')

/-- An identifier. -/
def identifier : Pattern := .seq (.one identifierStart) (.many identifierPart)

/-- Any white space. -/
def blanks : Pattern := .many .space

/-- At least one white space character. -/
def blanks1 : Pattern := .many1 .space

/-- Blanks and tabulators, as they are found inside a line. -/
def lineBlanks : Pattern := .many (.ofList [' ', '\t'])

/-- A quote of either kind. -/
def quote : Pattern := .one (.ofList ['\'', '"'])

/-- The start of a line. -/
def lineStart : Pattern := .look .lineStart

/-- A module name between quotes of either kind. -/
def quoted (name : Text) : Pattern := .seqs [quote, .word name, quote]

end CodeMigration.Lexeme
