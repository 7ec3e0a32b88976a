/-!
# CodeMigration.Style

Styled text for terminals. A styled text is the text between the sequence that
opens the style and the one that ends all styles; without colours it is the text
itself.
-/

namespace CodeMigration

/-- A way of showing text. -/
inductive Style
  /-- Bold. -/
  | bold
  /-- Dimmed. -/
  | dimmed
  /-- Red. -/
  | red
  /-- Green. -/
  | green
  /-- Yellow. -/
  | yellow
  /-- Cyan. -/
  | cyan
  /-- Bold and white. -/
  | boldWhite
  /-- Bold and red. -/
  | boldRed
  /-- Bold and green. -/
  | boldGreen
  /-- Bold and cyan. -/
  | boldCyan
  deriving DecidableEq, Repr

namespace Style

/-- The codes of a style. -/
def codes : Style → String
  | bold => "1"
  | dimmed => "2"
  | red => "31"
  | green => "32"
  | yellow => "33"
  | cyan => "36"
  | boldWhite => "1;37"
  | boldRed => "1;31"
  | boldGreen => "1;32"
  | boldCyan => "1;36"

/-- The sequence that opens a style. -/
def opening (style : Style) : List Char := "\x1b[".toList ++ style.codes.toList ++ ['m']

/-- The sequence that ends all styles. -/
def closing : List Char := "\x1b[0m".toList

/-- The text with the style taken up again wherever the text ends all styles. -/
def resume (style : Style) : List Char → List Char
  | '\x1b' :: '[' :: '0' :: 'm' :: rest => closing ++ style.opening ++ style.resume rest
  | c :: rest => c :: style.resume rest
  | [] => []

/-- The text in the style, if colours are shown. -/
def paint (style : Style) (colours : Bool) (text : String) : String :=
  if colours then String.ofList (style.opening ++ style.resume text.toList ++ closing) else text

end Style

end CodeMigration
