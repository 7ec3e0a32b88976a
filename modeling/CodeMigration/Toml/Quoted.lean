import CodeMigration.Toml.Scalar

/-!
# CodeMigration.Toml.Quoted

Texts in quotes, read and written. A text stands between double quotes, where a
backslash escapes, or between single quotes, where every character stands for
itself; three quotes in a row enclose a text of several lines.

Writing prefers the form that shows the text as it is: double quotes, then single
quotes, then three of either, and escapes only where nothing else will do.
-/

namespace CodeMigration.Toml.Quoted

/-! ### Reading -/

/-- Can the character stand in quotes as it is? The quotes themselves and the
backslash are looked at before. -/
def isPlain (c : Char) : Bool := c == '\t' || (32 ≤ c.toNat && c.toNat != 127)

/-- The character that a letter behind a backslash stands for. -/
def escaped? : Char → Option Char
  | 'b' => some '\x08'
  | 't' => some '\t'
  | 'n' => some '\n'
  | 'f' => some '\x0c'
  | 'r' => some '\r'
  | '"' => some '"'
  | '\\' => some '\\'
  | _ => none

/-- The character with the number that hexadecimal digits stand for. -/
def numbered? (digits : Text) : Option Char :=
  let n := Scalar.number 16 digits
  if digits.all (Scalar.isDigitOf 16) && n.isValidChar then some (Char.ofNat n) else none

/-- Puts a character before a text that was read. -/
def prepend (c : Char) (read : Option (Text × Text)) : Option (Text × Text) :=
  read.map fun (text, rest) => (c :: text, rest)

/-- Reads a text up to its double quote. -/
def readBasic : Text → Option (Text × Text)
  | [] => none
  | '"' :: rest => some ([], rest)
  | '\\' :: 'u' :: a :: b :: c :: d :: rest =>
    match numbered? [a, b, c, d] with
    | some x => prepend x (readBasic rest)
    | none => none
  | '\\' :: 'U' :: a :: b :: c :: d :: e :: f :: g :: h :: rest =>
    match numbered? [a, b, c, d, e, f, g, h] with
    | some x => prepend x (readBasic rest)
    | none => none
  | '\\' :: c :: rest =>
    match escaped? c with
    | some x => prepend x (readBasic rest)
    | none => none
  | c :: rest => if isPlain c && c != '\\' then prepend c (readBasic rest) else none

/-- Reads a text up to its single quote. -/
def readLiteral : Text → Option (Text × Text)
  | [] => none
  | '\'' :: rest => some ([], rest)
  | c :: rest => if isPlain c then prepend c (readLiteral rest) else none

/-- What a text of several lines ends with: up to two more quotes belong to it. -/
def closing (quote : Char) : Text → Text × Text
  | a :: b :: rest =>
    if a = quote ∧ b = quote then ([a, b], rest)
    else if a = quote then ([a], b :: rest)
    else ([], a :: b :: rest)
  | [a] => if a = quote then ([a], []) else ([], [a])
  | [] => ([], [])

/-- Does the line end here, apart from blanks? -/
def isLineEnd (chars : Text) : Bool :=
  match chars.dropWhile fun c => c == ' ' || c == '\t' with
  | '\n' :: _ => true
  | '\r' :: '\n' :: _ => true
  | _ => false

/-- Reads a text of several lines up to its double quotes. A backslash at the end of a
line joins it with what follows; `joining` tells that blanks and line ends are being
passed over for that. -/
def readLongBasic : Bool → Text → Option (Text × Text)
  | _, [] => none
  | _, '"' :: '"' :: '"' :: rest => some (closing '"' rest)
  | joining, '\r' :: '\n' :: rest =>
    if joining then readLongBasic true rest else prepend '\n' (readLongBasic false rest)
  | joining, '\n' :: rest =>
    if joining then readLongBasic true rest else prepend '\n' (readLongBasic false rest)
  | _, '\\' :: 'u' :: a :: b :: c :: d :: rest =>
    match numbered? [a, b, c, d] with
    | some x => prepend x (readLongBasic false rest)
    | none => none
  | _, '\\' :: 'U' :: a :: b :: c :: d :: e :: f :: g :: h :: rest =>
    match numbered? [a, b, c, d, e, f, g, h] with
    | some x => prepend x (readLongBasic false rest)
    | none => none
  | _, '\\' :: c :: rest =>
    if isLineEnd (c :: rest) then readLongBasic true (c :: rest)
    else
      match escaped? c with
      | some x => prepend x (readLongBasic false rest)
      | none => none
  | joining, c :: rest =>
    if joining && (c == ' ' || c == '\t') then readLongBasic true rest
    else if isPlain c && c != '\\' then prepend c (readLongBasic false rest)
    else none

/-- Reads a text of several lines up to its single quotes. -/
def readLongLiteral : Text → Option (Text × Text)
  | [] => none
  | '\'' :: '\'' :: '\'' :: rest => some (closing '\'' rest)
  | '\r' :: '\n' :: rest => prepend '\n' (readLongLiteral rest)
  | c :: rest => if isPlain c || c == '\n' then prepend c (readLongLiteral rest) else none

/-- The text without a line end in front. -/
def dropLineEnd : Text → Text
  | '\n' :: rest => rest
  | '\r' :: '\n' :: rest => rest
  | chars => chars

/-- Reads a text in quotes on a single line. -/
def readShort? : Text → Option (Text × Text)
  | '"' :: rest => readBasic rest
  | '\'' :: rest => readLiteral rest
  | _ => none

/-- Reads a text in quotes. A line end directly behind three quotes does not count. -/
def read? : Text → Option (Text × Text)
  | '"' :: '"' :: '"' :: rest => readLongBasic false (dropLineEnd rest)
  | '\'' :: '\'' :: '\'' :: rest => readLongLiteral (dropLineEnd rest)
  | chars => readShort? chars

/-! ### Writing -/

/-- The length of the longest run of a character. -/
def longestRun (c : Char) (text : Text) : Nat := go text 0 0
where
  /-- Continues a run; `best` is the longest one so far. -/
  go : Text → Nat → Nat → Nat
    | [], run, best => max run best
    | x :: rest, run, best =>
      if x = c then go rest (run + 1) best else go rest 0 (max run best)

/-- Is the character one that only an escape can show? Tabs and line feeds are looked
at on their own. -/
def isControl (c : Char) : Bool :=
  (c.toNat < 32 && c != '\t' && c != '\n') || c.toNat == 127

/-- A hexadecimal digit in upper case. -/
def hexDigit (n : Nat) : Char := (Nat.digitChar n).toUpper

/-- The escaped form of a character. -/
def escape (c : Char) : Text :=
  match c with
  | '\x08' => "\\b".toList
  | '\t' => "\\t".toList
  | '\n' => "\\n".toList
  | '\x0c' => "\\f".toList
  | '\r' => "\\r".toList
  | '"' => "\\\"".toList
  | '\\' => "\\\\".toList
  | c => if isControl c then
      "\\u00".toList ++ [hexDigit (c.toNat / 16), hexDigit (c.toNat % 16)]
    else [c]

/-- The body of a text in double quotes. -/
def basicBody (text : Text) : Text := text.flatMap escape

/-- The body of a text in three double quotes, in which line feeds stand as they are
and only every third quote in a row is escaped; `run` is the number of quotes just
written. -/
def longBasicBody : Nat → Text → Text
  | _, [] => []
  | run, c :: rest =>
    if c = '"' then
      if run < 2 then '"' :: longBasicBody (run + 1) rest else escape '"' ++ longBasicBody 0 rest
    else if c = '\n' then '\n' :: longBasicBody 0 rest
    else escape c ++ longBasicBody 0 rest

/-- A text in double quotes. -/
def basic (text : Text) : Text := '"' :: basicBody text ++ ['"']

/-- A text in single quotes. -/
def literal (text : Text) : Text := '\'' :: text ++ ['\'']

/-- Three quotes around a body. A text of several lines begins on a line of its own. -/
def long (quote : Char) (text body : Text) : Text :=
  let marks := List.replicate 3 quote
  marks ++ (if text.contains '\n' then ['\n'] else []) ++ body ++ marks

/-- The written form of a text. -/
def write (text : Text) : Text :=
  let hasControl := text.any isControl
  let hasBackslash := text.contains '\\'
  let hasLineFeed := text.contains '\n'
  if !hasControl && !hasBackslash && !text.contains '"' && !hasLineFeed then basic text
  else if !hasControl && !text.contains '\'' && !hasLineFeed then literal text
  else if !hasControl && !hasBackslash && longestRun '"' text ≤ 2 then
    long '"' text (longBasicBody 0 text)
  else if !hasControl && longestRun '\'' text ≤ 2 then long '\'' text text
  else if hasLineFeed then long '"' text (longBasicBody 0 text)
  else basic text

/-- Can the character stand in a name without quotes? -/
def isBare (c : Char) : Bool := c.isAlphanum || c == '_' || c == '-'

/-- The written form of a name. -/
def writeName (name : Text) : Text :=
  let isControlled := name.any fun c => isControl c || c == '\n'
  if !name.isEmpty && name.all isBare then name
  else if !isControlled && !name.contains '\\' && !name.contains '"' then basic name
  else if !isControlled && !name.contains '\'' then literal name
  else basic name

end CodeMigration.Toml.Quoted
