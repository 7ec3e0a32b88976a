/-!
# CodeMigration.JsonValue

Structured output. Objects keep the order of their fields; the printed form has
one entry to a line, two blanks of indentation to a level, and no line breaks in
empty lists and objects.
-/

namespace CodeMigration

/-- A structured value. -/
inductive JsonValue
  /-- A truth value. -/
  | bool (b : Bool)
  /-- A whole number. -/
  | number (n : Nat)
  /-- A text. -/
  | text (s : String)
  /-- A list. -/
  | list (items : List JsonValue)
  /-- Named fields. -/
  | object (fields : List (String × JsonValue))

namespace JsonValue

/-- A control character by its code. -/
def escapeCode (c : Char) : String :=
  let digits := Nat.toDigits 16 c.toNat
  "\\u" ++ String.ofList (List.replicate (4 - digits.length) '0' ++ digits)

/-- The escaped form of a character. -/
def escapeChar : Char → String
  | '"' => "\\\""
  | '\\' => "\\\\"
  | '\n' => "\\n"
  | '\r' => "\\r"
  | '\t' => "\\t"
  | '\x08' => "\\b"
  | '\x0c' => "\\f"
  | c => if c.toNat < 32 then escapeCode c else c.toString

/-- A text in quotes. -/
def quote (s : String) : String := "\"" ++ String.join (s.toList.map escapeChar) ++ "\""

/-- A new line at the given level. -/
def newLine (level : Nat) : String := "\n" ++ String.ofList (List.replicate (2 * level) ' ')

mutual

/-- The printed form of a value at the given level. -/
def printAt (level : Nat) : JsonValue → String
  | bool true => "true"
  | bool false => "false"
  | number n => toString n
  | text s => quote s
  | list [] => "[]"
  | list (item :: items) =>
    "[" ++ newLine (level + 1) ++ item.printAt (level + 1) ++ printItems (level + 1) items ++
      newLine level ++ "]"
  | object [] => "\x7b\x7d"
  | object ((name, value) :: fields) =>
    "\x7b" ++ newLine (level + 1) ++ quote name ++ ": " ++ value.printAt (level + 1) ++
      printFields (level + 1) fields ++ newLine level ++ "\x7d"

/-- The further items of a list. -/
def printItems (level : Nat) : List JsonValue → String
  | [] => ""
  | item :: items => "," ++ newLine level ++ item.printAt level ++ printItems level items

/-- The further fields of an object. -/
def printFields (level : Nat) : List (String × JsonValue) → String
  | [] => ""
  | (name, value) :: fields =>
    "," ++ newLine level ++ quote name ++ ": " ++ value.printAt level ++ printFields level fields

end

/-- The printed form of a value. -/
def print (value : JsonValue) : String := value.printAt 0

/-- A list of texts. -/
def texts (ss : List String) : JsonValue := list (ss.map text)

end JsonValue

end CodeMigration
