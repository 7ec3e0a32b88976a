import CodeMigration.Unicode.Property

/-!
# CodeMigration.Text.Quoted

Texts in quotes for inspection. Whatever could not be seen or would be misread is
escaped: quotes, backslashes, the common control characters by letter, and every
other character that cannot be shown or that attaches itself to its neighbour by
its code point.
-/

namespace CodeMigration.Quoted

/-- A number in hexadecimal digits, in lower case. -/
def hex (n : Nat) : String := String.ofList (Nat.toDigits 16 n)

/-- The escaped form of a character. -/
def escapeChar : Char → String
  | '\x00' => "\\0"
  | '\t' => "\\t"
  | '\r' => "\\r"
  | '\n' => "\\n"
  | '\\' => "\\\\"
  | '"' => "\\\""
  | c =>
    if (128 ≤ c.toNat && Unicode.isExtending c) || !Unicode.isPrintable c then
      "\\u\x7b" ++ hex c.toNat ++ "\x7d"
    else c.toString

/-- The text in quotes. -/
def quote (s : String) : String := "\"" ++ String.join (s.toList.map escapeChar) ++ "\""

/-- A list of texts in quotes. -/
def quoteList (ss : List String) : String := "[" ++ ", ".intercalate (ss.map quote) ++ "]"

end CodeMigration.Quoted
