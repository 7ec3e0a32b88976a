import CodeMigration.Toml.Document
import CodeMigration.Toml.Quoted

/-!
# CodeMigration.Toml.Reader

Reads documents. Each statement has a line of its own, apart from lists and long
texts, which may go on over several lines. `Toml.parse?` gives the table that a
document stands for.
-/

namespace CodeMigration.Toml.Reader

/-! ### Blanks, comments and lines -/

/-- Is the character a blank or a tab? -/
def isBlank (c : Char) : Bool := c == ' ' || c == '\t'

/-- The text without blanks in front. -/
def skipBlanks (chars : Text) : Text := chars.dropWhile isBlank

/-- The text without a comment in front. -/
def skipComment : Text → Text
  | '#' :: rest => rest.dropWhile Quoted.isPlain
  | chars => chars

/-- Reads the end of a line or of the document. -/
def lineEnd? : Text → Option Text
  | [] => some []
  | '\n' :: rest => some rest
  | '\r' :: '\n' :: rest => some rest
  | _ => none

/-- Reads what may stand behind a statement: blanks, a comment, and the line end. -/
def statementEnd? (chars : Text) : Option Text := lineEnd? (skipComment (skipBlanks chars))

/-- Passes over blanks, comments and lines inside a list. A comment must not run into
the end of the document, but then the list has no end either. -/
def skipLines : Nat → Text → Text
  | 0, chars => chars
  | fuel + 1, chars =>
    match skipBlanks chars with
    | '#' :: rest =>
      match lineEnd? (rest.dropWhile Quoted.isPlain) with
      | some next => skipLines fuel next
      | none => '#' :: rest
    | '\n' :: rest => skipLines fuel rest
    | '\r' :: '\n' :: rest => skipLines fuel rest
    | rest => rest

/-! ### Names -/

/-- How many levels of nesting, and how many parts of a name, are too many. -/
def maxDepth : Nat := 80

/-- Reads one part of a name. -/
def namePart? (chars : Text) : Option (String × Text) :=
  match chars.takeWhile Quoted.isBare with
  | [] => (Quoted.readShort? chars).map fun (text, rest) => (String.ofList text, rest)
  | bare => some (String.ofList bare, chars.dropWhile Quoted.isBare)

/-- Reads a name with dots between its parts and blanks around them. -/
def nameParts? : Nat → Text → Option (List String × Text)
  | 0, _ => none
  | fuel + 1, chars =>
    match namePart? (skipBlanks chars) with
    | none => none
    | some (part, rest) =>
      match skipBlanks rest with
      | '.' :: more => (nameParts? fuel more).map fun (parts, rest) => (part :: parts, rest)
      | rest => some ([part], rest)

/-- Reads a name. -/
def name? (chars : Text) : Option (List String × Text) := nameParts? (maxDepth - 1) chars

/-! ### Values -/

mutual

/-- Reads a value. The first number bounds the work, the second the depth of nesting
that is left. -/
def value? : Nat → Nat → Text → Option (Value × Text)
  | 0, _, _ => none
  | fuel + 1, depth, chars =>
    match chars with
    | '"' :: _ => (Quoted.read? chars).map fun (text, rest) => (.text (String.ofList text), rest)
    | '\'' :: _ => (Quoted.read? chars).map fun (text, rest) => (.text (String.ofList text), rest)
    | '[' :: rest =>
      if depth = 0 then none
      else (items? fuel (depth - 1) (skipLines rest.length rest)).map fun (items, rest) =>
        (.list items, rest)
    | '\x7b' :: rest =>
      if depth = 0 then none
      else
        match skipBlanks rest with
        | '\x7d' :: rest => some (.table [], rest)
        | rest =>
          match pairs? fuel (depth - 1) rest with
          | some (pairs, rest) => (Table.ofPairs? pairs).map fun table => (.table table, rest)
          | none => none
    | _ =>
      let (scalar, rest) := Scalar.split chars
      (Scalar.value? scalar).map fun value => (value, rest)

/-- Reads the items of a list up to its bracket. A comma may stand behind the last. -/
def items? : Nat → Nat → Text → Option (List Value × Text)
  | 0, _, _ => none
  | fuel + 1, depth, chars =>
    match chars with
    | ']' :: rest => some ([], rest)
    | _ =>
      match value? fuel depth chars with
      | none => none
      | some (item, rest) =>
        match skipLines rest.length rest with
        | ',' :: more =>
          (items? fuel depth (skipLines more.length more)).map fun (items, rest) =>
            (item :: items, rest)
        | ']' :: rest => some ([item], rest)
        | _ => none

/-- Reads the named values of a table in braces up to its brace. -/
def pairs? : Nat → Nat → Text → Option (List (List String × Value) × Text)
  | 0, _, _ => none
  | fuel + 1, depth, chars =>
    match name? chars with
    | some (path, '=' :: rest) =>
      match value? fuel depth (skipBlanks rest) with
      | none => none
      | some (value, rest) =>
        match skipBlanks rest with
        | ',' :: more => (pairs? fuel depth more).map fun (pairs, rest) =>
            ((path, value) :: pairs, rest)
        | '\x7d' :: rest => some ([(path, value)], rest)
        | _ => none
    | _ => none

end

/-! ### Statements -/

/-- Reads a value with all that is nested in it. -/
def wholeValue? (chars : Text) : Option (Value × Text) :=
  value? (2 * chars.length + 2) (maxDepth - 1) chars

/-- Reads one statement with the rest of its line. -/
def statement? (chars : Text) : Option (Statement × Text) :=
  match chars with
  | '[' :: '[' :: rest =>
    match name? rest with
    | some (path, ']' :: ']' :: rest) => (statementEnd? rest).map (.appends path, ·)
    | _ => none
  | '[' :: rest =>
    match name? rest with
    | some (path, ']' :: rest) => (statementEnd? rest).map (.opens path, ·)
    | _ => none
  | _ =>
    match name? chars with
    | some (path, '=' :: rest) =>
      match wholeValue? (skipBlanks rest) with
      | some (value, rest) => (statementEnd? rest).map (.entry path value, ·)
      | none => none
    | _ => none

/-- Reads statements up to the end of the document. Lines may be empty apart from
blanks and comments. -/
def statements? : Nat → Text → Option (List Statement)
  | 0, _ => none
  | fuel + 1, chars =>
    match skipBlanks chars with
    | [] => some []
    | '#' :: rest => (statementEnd? ('#' :: rest)).bind (statements? fuel)
    | '\n' :: rest => statements? fuel rest
    | '\r' :: '\n' :: rest => statements? fuel rest
    | rest =>
      match statement? rest with
      | some (statement, rest) => (statements? fuel rest).map (statement :: ·)
      | none => none

end Reader

/-- The document without a byte order mark in front. -/
def dropMark : Text → Text
  | '\uFEFF' :: rest => rest
  | chars => chars

/-- The table that a document stands for. -/
def parse? (document : Text) : Option Table :=
  (Reader.statements? (document.length + 1) (dropMark document)).bind Statement.toTable?

end CodeMigration.Toml
