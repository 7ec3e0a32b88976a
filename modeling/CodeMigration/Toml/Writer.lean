import CodeMigration.Toml.Document
import CodeMigration.Toml.Quoted

/-!
# CodeMigration.Toml.Writer

Writes documents, one statement after the other. There is an empty line before each
header but the first, and a list of two or more items has a line for each of them.
-/

namespace CodeMigration.Toml

/-- The written form of a dotted name. -/
def writePath (path : List String) : Text :=
  (path.map fun name => Quoted.writeName name.toList).intersperse ['.'] |>.flatten

mutual

/-- The written form of a value. -/
def Value.write : Value → Text
  | .text s => Quoted.write s.toList
  | .boolean b => if b then "true".toList else "false".toList
  | .integer n => (toString n).toList
  | .float written => written
  | .moment written => written
  | .list [] => "[]".toList
  | .list [item] => '[' :: item.write ++ [']']
  | .list items => "[\n".toList ++ Value.writeItems items ++ [']']
  | .table [] => "\x7b\x7d".toList
  | .table (entry :: entries) =>
    "\x7b ".toList ++ Value.writeEntry entry ++ Value.writeEntries entries ++ " \x7d".toList

/-- The written form of items, each on a line of its own. -/
def Value.writeItems : List Value → Text
  | [] => []
  | item :: items => "    ".toList ++ item.write ++ ",\n".toList ++ Value.writeItems items

/-- The written form of a named value. -/
def Value.writeEntry : String × Value → Text
  | (name, value) => Quoted.writeName name.toList ++ " = ".toList ++ value.write

/-- The written form of further named values between braces. -/
def Value.writeEntries : List (String × Value) → Text
  | [] => []
  | entry :: entries => ", ".toList ++ Value.writeEntry entry ++ Value.writeEntries entries

end

/-- The written form of a statement. -/
def Statement.write : Statement → Text
  | .opens path => '[' :: writePath path ++ "]\n".toList
  | .appends path => "[[".toList ++ writePath path ++ "]]\n".toList
  | .entry path value => writePath path ++ " = ".toList ++ value.write ++ ['\n']

/-- Is the statement a header? -/
def Statement.isHeader : Statement → Bool
  | .entry _ _ => false
  | _ => true

/-- The written form of the statements behind the first. -/
def Statement.writeRest : List Statement → Text
  | [] => []
  | statement :: statements =>
    (if statement.isHeader then ['\n'] else []) ++ statement.write ++
      Statement.writeRest statements

/-- The written form of a document. -/
def print : List Statement → Text
  | [] => []
  | statement :: statements => statement.write ++ Statement.writeRest statements

end CodeMigration.Toml
