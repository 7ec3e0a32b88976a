import CodeMigration.Pattern.Form
import CodeMigration.Pattern.Match

/-!
# CodeMigration.Pattern.Parser

Reads written patterns. The reader goes through the text once, from left to
right, and carries the flags in force; a flag set inside a group ends with the
group. Reading fails on anything that is not a pattern, on groups named twice, on
patterns that would have to match single bytes of a character, and on patterns
that would take too much room.
-/

namespace CodeMigration.PatternParser

open CodeMigration (Text)

/-- The flags in force at a place of a written pattern. -/
structure Flags where
  /-- Letters match in either case. -/
  caseless : Bool := false
  /-- Line anchors match at every line. -/
  multiLine : Bool := false
  /-- The dot also matches line ends. -/
  dotAll : Bool := false
  /-- Repetitions prefer fewer rounds, and more when marked. -/
  swapGreed : Bool := false
  /-- Classes range over the characters of all scripts. -/
  unicode : Bool := true
  /-- Carriage returns end lines too. -/
  anyLineEnd : Bool := false
  /-- Blanks and comments are skipped. -/
  verbose : Bool := false

/-! ### Blanks and numbers -/

/-- The text without the blanks and comments at its start. -/
def dropBlank : Text → Text := go false
where
  /-- Skips to the end of a comment, or over blanks. -/
  go : Bool → Text → Text
    | _, [] => []
    | true, c :: rest => go (c != '\n') rest
    | false, c :: rest =>
      if Unicode.isSpace c then go false rest else if c == '#' then go true rest else c :: rest

/-- Skips blanks and comments where the flags say so. -/
def Flags.skip (flags : Flags) (cs : Text) : Text := if flags.verbose then dropBlank cs else cs

/-- The character that follows the hyphen in front, blanks and one sign of a
comment aside. -/
def Flags.peekPastHyphen (flags : Flags) (cs : Text) : Option Char :=
  let rest := cs.drop 1
  if flags.verbose then
    let rest := rest.dropWhile Unicode.isSpace
    match rest with
    | '#' :: more => (more.dropWhile Unicode.isSpace).head?
    | _ => rest.head?
  else rest.head?

/-- The value of a hexadecimal digit. -/
def hexValue? (c : Char) : Option Nat :=
  if '0' ≤ c ∧ c ≤ '9' then some (c.toNat - '0'.toNat)
  else if 'a' ≤ c ∧ c ≤ 'f' then some (c.toNat - 'a'.toNat + 10)
  else if 'A' ≤ c ∧ c ≤ 'F' then some (c.toNat - 'A'.toNat + 10)
  else none

/-- The character with the given code point. -/
def scalar? (n : Nat) : Option Char := if n.isValidChar then some (Char.ofNat n) else none

/-- Reads exactly `count` hexadecimal digits. -/
def hexDigits (flags : Flags) : Nat → Nat → Text → Option (Nat × Text)
  | 0, value, cs => some (value, cs)
  | _ + 1, _, [] => none
  | count + 1, value, c :: rest => do
    hexDigits flags count (value * 16 + (← hexValue? c)) (flags.skip rest)

/-- Reads hexadecimal digits up to a closing brace, of which there is at least one. -/
def hexBraced (flags : Flags) (fuel : Nat) (value : Option Nat) (cs : Text) :
    Option (Nat × Text) :=
  match fuel, flags.skip cs with
  | 0, _ => none
  | _, [] => none
  | fuel + 1, c :: rest =>
    if c == '\x7d' then value.map fun n => (n, flags.skip rest)
    else do hexBraced flags fuel (some (value.getD 0 * 16 + (← hexValue? c))) rest

/-- Reads digits; blanks around and, where they are skipped, between them do not
count. -/
def digits (flags : Flags) : Nat → Text → Text → Text × Text
  | fuel + 1, c :: rest, read =>
    if c.isDigit then digits flags fuel (flags.skip rest) (c :: read) else (read.reverse, c :: rest)
  | _, cs, read => (read.reverse, cs)

/-- Reads a decimal number below 2^32 with any blanks around it. The outer answer
is missing when the number is too large, the inner one when there are no digits. -/
def decimal (flags : Flags) (cs : Text) : Option (Option Nat × Text) :=
  let (read, rest) := digits flags (cs.length + 1) (cs.dropWhile Unicode.isSpace) []
  let rest := flags.skip (rest.dropWhile Unicode.isSpace)
  if read.isEmpty then some (none, rest)
  else
    let value := read.foldl (fun n c => n * 10 + (c.toNat - '0'.toNat)) 0
    if value < Nat.pow 2 32 then some (some value, rest) else none

/-! ### Escapes -/

/-- What a single element of a pattern can be. -/
inductive Primitive
  /-- A character; `isByte` tells whether it was given by two hexadecimal digits. -/
  | char (c : Char) (isByte : Bool)
  /-- A set of characters. -/
  | set (s : CharSet)
  /-- A condition on the place. -/
  | look (anchor : Anchor)

/-- The word characters of the mode in force. -/
def Flags.isWord (flags : Flags) : Char → Bool :=
  if flags.unicode then Unicode.isWord else Unicode.isAsciiWord

/-- A set or its complement. The complement of a set of bytes would split
characters, so it exists only for sets of characters. -/
def Flags.negate (flags : Flags) (negated : Bool) (s : CharSet) : Option CharSet :=
  if !negated then some s else if flags.unicode then some (.compl s) else none

/-- A set closed under the case variants in force. -/
def Flags.foldCase (flags : Flags) (s : CharSet) : CharSet :=
  if !flags.caseless then s else if flags.unicode then .caseless s else .asciiCaseless s

/-- The digit, space and word classes. -/
def Flags.perlClass (flags : Flags) (c : Char) : Option CharSet :=
  let u := flags.unicode
  match c with
  | 'd' => some (if u then .digit else .asciiDigit)
  | 's' => some (if u then .space else .asciiSpace)
  | 'w' => some (if u then .word else .asciiWord)
  | 'D' => flags.negate true (if u then .digit else .asciiDigit)
  | 'S' => flags.negate true (if u then .space else .asciiSpace)
  | 'W' => flags.negate true (if u then .word else .asciiWord)
  | _ => none

/-- Splits a text at the first place where the given word stands. -/
def splitAtWord (word : Text) : Text → Option (Text × Text)
  | [] => if word.isEmpty then some ([], []) else none
  | c :: rest =>
    if word.isPrefixOf (c :: rest) then some ([], (c :: rest).drop word.length)
    else (splitAtWord word rest).map fun (a, b) => (c :: a, b)

/-- The property that the text between the braces of a property class names, and
whether the text negates it. -/
def propertyQuery (query : Text) : Option (Unicode.Property × Bool) :=
  let valued (pair : Text × Text) :=
    Unicode.Property.valued? (String.ofList pair.1) (String.ofList pair.2)
  -- The sign for unequal holds the one for equal, so it is looked for first.
  match splitAtWord ['!', '='] query with
  | some pair => (valued pair).map (·, true)
  | none =>
    match splitAtWord [':'] query with
    | some pair => (valued pair).map (·, false)
    | none =>
      match splitAtWord ['='] query with
      | some pair => (valued pair).map (·, false)
      | none => (Unicode.Property.named? (String.ofList query)).map (·, false)

/-- Reads the text of a property class up to its closing brace. -/
def bracedName (flags : Flags) : Nat → Text → Text → Option (Text × Text)
  | 0, _, _ => none
  | fuel + 1, cs, read =>
    match flags.skip cs with
    | [] => none
    | c :: rest =>
      if c == '\x7d' then some (read.reverse, rest) else bracedName flags fuel rest (c :: read)

/-- Reads a property class behind its letter. -/
def propertyClass (flags : Flags) (negated : Bool) (cs : Text) : Option (CharSet × Text) := do
  let build (query : Text) : Option CharSet := do
    let (property, flipped) ← propertyQuery query
    if !flags.unicode then none
    else flags.negate (negated != flipped) (flags.foldCase (.property property))
  match flags.skip cs with
  | [] => none
  | '\\' :: _ => none
  | '\x7b' :: rest =>
    let (query, rest) ← bracedName flags (rest.length + 1) rest []
    return (← build query, rest)
  | c :: rest => return (← build [c], flags.skip rest)

/-- The characters that have a meaning of their own in patterns. -/
def isMeta (c : Char) : Bool :=
  ['\\', '.', '+', '*', '?', '(', ')', '|', '[', ']', '\x7b', '\x7d', '^', '$', '#', '&', '-',
   '~'].contains c

/-- May the character be escaped without need? -/
def isEscapable (c : Char) : Bool :=
  isMeta c || (c.toNat < 128 && !c.isAlphanum && c != '<' && c != '>')

/-- The kinds of word boundary that are named in braces. -/
def namedBoundary? (isWord : Char → Bool) : String → Option Anchor
  | "start" => some (.wordStart isWord)
  | "end" => some (.wordEnd isWord)
  | "start-half" => some (.wordStartHalf isWord)
  | "end-half" => some (.wordEndHalf isWord)
  | _ => none

/-- May the character stand in the name of a word boundary? -/
def isBoundaryChar (c : Char) : Bool := c.isAlpha || c == '-'

/-- Reads the characters of a boundary name. -/
def boundaryName (flags : Flags) : Nat → Text → Text → Text × Text
  | fuel + 1, c :: rest, read =>
    if isBoundaryChar c then boundaryName flags fuel (flags.skip rest) (c :: read)
    else (read.reverse, c :: rest)
  | _, cs, read => (read.reverse, cs)

/-- Reads what may follow the letter of a word boundary: a name in braces. A brace
that no name can follow is left for a counted repetition. -/
def wordBoundary (flags : Flags) (cs : Text) : Option (Anchor × Text) :=
  match cs with
  | '\x7b' :: rest =>
    match flags.skip rest with
    | [] => none
    | c :: more =>
      if isBoundaryChar c then
        match boundaryName flags (more.length + 2) (c :: more) [] with
        | (name, '\x7d' :: rest) =>
          (namedBoundary? flags.isWord (String.ofList name)).map (·, rest)
        | _ => none
      else some (.wordBoundary flags.isWord, cs)
  | _ => some (.wordBoundary flags.isWord, cs)

/-- Reads an escape behind its backslash. -/
def escape (flags : Flags) (cs : Text) : Option (Primitive × Text) := do
  let hex (count : Nat) (rest : Text) : Option (Primitive × Text) := do
    match flags.skip rest with
    | [] => none
    | '\x7b' :: more =>
      let (n, rest) ← hexBraced flags (more.length + 1) none more
      return (.char (← scalar? n) false, rest)
    | more =>
      let (n, rest) ← hexDigits flags count 0 more
      -- Two digits may stand for a byte that is no character of its own.
      return (.char (← scalar? n) (count == 2), rest)
  match cs with
  | [] => none
  | 'x' :: rest => hex 2 rest
  | 'u' :: rest => hex 4 rest
  | 'U' :: rest => hex 8 rest
  | 'p' :: rest => let (s, rest) ← propertyClass flags false rest; return (.set s, rest)
  | 'P' :: rest => let (s, rest) ← propertyClass flags true rest; return (.set s, rest)
  | 'a' :: rest => return (.char '\x07' false, rest)
  | 'f' :: rest => return (.char '\x0c' false, rest)
  | 't' :: rest => return (.char '\t' false, rest)
  | 'n' :: rest => return (.char '\n' false, rest)
  | 'r' :: rest => return (.char '\r' false, rest)
  | 'v' :: rest => return (.char '\x0b' false, rest)
  | 'A' :: rest => return (.look .textStart, rest)
  | 'z' :: rest => return (.look .textEnd, rest)
  | 'b' :: rest => let (anchor, rest) ← wordBoundary flags rest; return (.look anchor, rest)
  | 'B' :: rest => return (.look (.notWordBoundary flags.isWord), rest)
  | '<' :: rest => return (.look (.wordStart flags.isWord), rest)
  | '>' :: rest => return (.look (.wordEnd flags.isWord), rest)
  | c :: rest =>
    if ['d', 's', 'w', 'D', 'S', 'W'].contains c then return (.set (← flags.perlClass c), rest)
    else if isEscapable c then return (.char c false, rest)
    else none

/-! ### Classes in brackets -/

/-- The operators between the parts of a class. -/
inductive SetOp
  /-- Characters of both parts. -/
  | inter
  /-- Characters of the first part only. -/
  | diff
  /-- Characters of exactly one part. -/
  | symmDiff

/-- A single character inside a class; in byte mode it has to be ASCII. -/
def Flags.classChar (flags : Flags) (c : Char) : Option Char :=
  if flags.unicode || c.toNat < 128 then some c else none

/-- The left part of a class, if an operator stands before the current part. -/
def Flags.combine (flags : Flags) (pending : Option (SetOp × CharSet)) (s : CharSet) : CharSet :=
  match pending with
  | none => s
  | some (op, left) =>
    let left := flags.foldCase left
    let right := flags.foldCase s
    match op with
    | .inter => .inter left right
    | .diff => .diff left right
    | .symmDiff => .symmDiff left right

/-- Reads the named ASCII class that may begin at a bracket inside a class. The
text is that behind the bracket. -/
def asciiClass (flags : Flags) (cs : Text) : Option (Option CharSet × Text) := do
  let ':' :: rest := cs | none
  let (negated, rest) := match rest with
    | '^' :: rest => (true, rest)
    | _ => (false, rest)
  let name := rest.takeWhile (· != ':')
  let ':' :: ']' :: rest := rest.dropWhile (· != ':') | none
  let s ← CharSet.asciiNamed? (String.ofList name)
  return (flags.negate negated (flags.foldCase s), rest)

/-- Reads the hyphens at the start of a class, which stand for themselves. -/
def leadingHyphens (flags : Flags) : Nat → Text → Nat × Text
  | fuel + 1, '-' :: rest =>
    let (n, rest) := leadingHyphens flags fuel (flags.skip rest)
    (n + 1, rest)
  | _, cs => (0, cs)

/-- Reads the start of a class behind its bracket: the sign of negation, and
hyphens or a bracket that stand for themselves. -/
def classStart (flags : Flags) (cs : Text) : Option (Bool × CharSet × Text) := do
  let cs := flags.skip cs
  let (negated, cs) := match cs with
    | '^' :: rest => (true, flags.skip rest)
    | _ => (false, cs)
  let (hyphens, cs) := leadingHyphens flags cs.length cs
  match cs with
  | [] => none
  | ']' :: rest =>
    if hyphens == 0 then
      let rest := flags.skip rest
      if rest.isEmpty then none else return (negated, .single ']', rest)
    else return (negated, .single '-', cs)
  | _ => return (negated, if hyphens == 0 then .empty else .single '-', cs)

/-- Reads one element of a class. -/
def classItem (flags : Flags) : Text → Option (Primitive × Text)
  | [] => none
  | '\\' :: rest => escape flags rest
  | c :: rest => some (.char c false, rest)

/-- Reads one element of a class or a range of characters. A hyphen in front of a
closing bracket or of another hyphen makes no range. -/
def classRange (flags : Flags) (cs : Text) : Option (CharSet × Text) := do
  let (first, rest) ← classItem flags cs
  let rest := flags.skip rest
  let peek := flags.peekPastHyphen rest
  if rest.head? == some '-' && peek != some ']' && peek != some '-' then
    let (last, rest) ← classItem flags (flags.skip (rest.drop 1))
    match first, last with
    | .char a _, .char b _ =>
      let a ← flags.classChar a
      let b ← flags.classChar b
      if a ≤ b then return (.range a b, rest) else none
    | _, _ => none
  else if rest.isEmpty then none
  else
    match first with
    | .char c _ => return (.single (← flags.classChar c), rest)
    | .set s => return (s, rest)
    | .look _ => none

/-- Reads the rest of a class up to its closing bracket, together with the depth
of the classes inside it. `read` is what the current part holds so far. -/
def classRest (flags : Flags) :
    Nat → Option (SetOp × CharSet) → CharSet → Nat → Text → Option (CharSet × Nat × Text)
  | 0, _, _, _, _ => none
  | fuel + 1, pending, read, depth, cs =>
    match flags.skip cs with
    | [] => none
    | ']' :: rest => some (flags.combine pending read, depth, rest)
    | '&' :: '&' :: rest =>
      classRest flags fuel (some (.inter, flags.combine pending read)) .empty depth rest
    | '-' :: '-' :: rest =>
      classRest flags fuel (some (.diff, flags.combine pending read)) .empty depth rest
    | '~' :: '~' :: rest =>
      classRest flags fuel (some (.symmDiff, flags.combine pending read)) .empty depth rest
    | '[' :: rest =>
      match asciiClass flags rest with
      | some (s, rest) => do classRest flags fuel pending (.union read (← s)) depth rest
      | none => do
        -- What is no named class is a class inside this one.
        let (negated, start, rest) ← classStart flags rest
        let (s, inner, rest) ← classRest flags fuel none start 0 rest
        let s ← flags.negate negated (flags.foldCase s)
        classRest flags fuel pending (.union read s) (Nat.max depth (inner + 1)) rest
    | cs => do
      let (s, rest) ← classRange flags cs
      classRest flags fuel pending (.union read s) depth rest

/-- Reads a class behind its opening bracket, with its depth. -/
def bracketClass (flags : Flags) (cs : Text) : Option (CharSet × Nat × Text) := do
  let (negated, start, rest) ← classStart flags cs
  let (s, depth, rest) ← classRest flags (rest.length + 1) none start 0 rest
  return (← flags.negate negated (flags.foldCase s), depth + 1, rest)

/-! ### Groups and flags -/

/-- Reads the letters of a flag list up to the colon or bracket that ends it. No
flag and no sign of negation may come twice, and the sign may not come last. -/
def flagLetters : Text → List Char → Option (List Char × Text)
  | [], _ => none
  | c :: rest, read =>
    if c == ':' || c == ')' then
      if read.head? == some '-' then none else some (read.reverse, c :: rest)
    else if read.contains c then none
    else if ['-', 'i', 'm', 's', 'U', 'u', 'R', 'x'].contains c then flagLetters rest (c :: read)
    else none

/-- The flags after the letters of a flag list; those behind the sign of negation
are cleared. -/
def Flags.update (flags : Flags) (letters : List Char) : Flags :=
  let on := letters.takeWhile (· != '-')
  let off := letters.dropWhile (· != '-')
  let pick (letter : Char) (old : Bool) : Bool :=
    if on.contains letter then true else if off.contains letter then false else old
  { caseless := pick 'i' flags.caseless
    multiLine := pick 'm' flags.multiLine
    dotAll := pick 's' flags.dotAll
    swapGreed := pick 'U' flags.swapGreed
    unicode := pick 'u' flags.unicode
    anyLineEnd := pick 'R' flags.anyLineEnd
    verbose := pick 'x' flags.verbose }

/-- May the character stand in a group name? -/
def isGroupNameChar (first : Bool) (c : Char) : Bool :=
  if first then c == '_' || Unicode.isAlphabetic c
  else c == '_' || c == '.' || c == '[' || c == ']' || Unicode.isAlphanumeric c

/-- Reads a group name up to its closing angle bracket. -/
def groupName (cs : Text) : Option (String × Text) :=
  let name := cs.takeWhile (· != '>')
  match name, cs.dropWhile (· != '>') with
  | c :: more, '>' :: rest =>
    if isGroupNameChar true c && more.all (isGroupNameChar false) then
      some (String.ofList name, rest)
    else none
  | _, _ => none

/-- How a group begins. -/
inductive Opening
  /-- A flag list that holds up to the end of the enclosing group. -/
  | flags (letters : List Char)
  /-- A group that is not captured, under further flags. -/
  | plain (letters : List Char)
  /-- A captured group with or without a name. -/
  | capture (name : Option String)

/-- Reads what follows the opening bracket of a group. Looking around is not
supported. -/
def groupOpening (flags : Flags) (cs : Text) : Option (Opening × Text) :=
  match flags.skip cs with
  | '?' :: '=' :: _ => none
  | '?' :: '!' :: _ => none
  | '?' :: '<' :: '=' :: _ => none
  | '?' :: '<' :: '!' :: _ => none
  | '?' :: 'P' :: '<' :: rest => (groupName rest).map fun (name, rest) => (.capture name, rest)
  | '?' :: '<' :: rest => (groupName rest).map fun (name, rest) => (.capture name, rest)
  | '?' :: rest =>
    match flagLetters rest [] with
    | some (letters, ')' :: rest) => if letters.isEmpty then none else some (.flags letters, rest)
    | some (letters, _ :: rest) => some (.plain letters, rest)
    | _ => none
  | rest => some (.capture none, rest)

/-! ### Whole patterns -/

/-- What the reader carries along: the rest of the text, the flags in force, and
the groups seen so far. -/
structure State where
  /-- The text that is still to be read. -/
  rest : Text
  /-- The flags in force. -/
  flags : Flags
  /-- How many groups are captured so far. -/
  groups : Nat
  /-- The named groups so far. -/
  names : List (String × Nat)

/-- One element of a sequence: a form with the depth of its nesting, or a flag
list, which cannot be repeated. -/
structure Item where
  /-- What the element stands for; a flag list stands for nothing. -/
  form : Option Form
  /-- How deeply the element is nested. -/
  depth : Nat

/-- How deeply a pattern may be nested. -/
def depthLimit : Nat := 250

/-- The form of a sequence, given in reverse, with its depth. -/
def sequence (items : List Item) : Form × Nat :=
  let forms := items.filterMap (·.form)
  let form := match forms.reverse with
    | [] => Form.empty
    | first :: rest => rest.foldl Form.seq first
  let depth := items.foldl (fun d item => Nat.max d item.depth) 0
  (form, if items.length ≤ 1 then depth else depth + 1)

/-- The form of the branches of a choice, given in reverse, with its depth. -/
def branches (done : List (Form × Nat)) (last : Form × Nat) : Form × Nat :=
  match done with
  | [] => last
  | done =>
    let form := done.foldl (fun acc a => Form.alt a.1 acc) last.1
    (form, done.foldl (fun d a => Nat.max d a.2) last.2 + 1)

/-- The form of a character. -/
def Flags.charForm (flags : Flags) (c : Char) (isByte : Bool) : Option Form :=
  if !flags.unicode && isByte && 128 ≤ c.toNat then none
  else if flags.caseless then some (.oneOf (flags.foldCase (.single c)))
  else some (.char c)

/-- The form of the dot; it matches characters, never bytes. -/
def Flags.dotForm (flags : Flags) : Option Form :=
  if !flags.unicode then none
  else if flags.dotAll then some (.oneOf .full)
  else if flags.anyLineEnd then some (.oneOf (.noneOf ['\r', '\n']))
  else some (.oneOf (.noneOf ['\n']))

/-- The condition that a caret stands for. -/
def Flags.lineStart (flags : Flags) : Anchor :=
  if !flags.multiLine then .textStart else if flags.anyLineEnd then .anyLineStart else .lineStart

/-- The condition that a dollar sign stands for. -/
def Flags.lineEnd (flags : Flags) : Anchor :=
  if !flags.multiLine then .textEnd else if flags.anyLineEnd then .anyLineEnd else .lineEnd

/-- Reads one element that is neither a group nor a class in brackets. -/
def primitive (flags : Flags) : Text → Option (Form × Text)
  | [] => none
  | '.' :: rest => flags.dotForm.map (·, rest)
  | '^' :: rest => some (.look flags.lineStart, rest)
  | '$' :: rest => some (.look flags.lineEnd, rest)
  | '\\' :: rest => do
    match ← escape flags rest with
    | (.char c isByte, rest) => return (← flags.charForm c isByte, rest)
    | (.set s, rest) => return (.oneOf s, rest)
    | (.look anchor, rest) => return (.look anchor, rest)
  | c :: rest => (flags.charForm c false).map (·, rest)

/-- Reads the bounds of a counted repetition behind its brace. -/
def bounds (flags : Flags) (cs : Text) : Option ((Nat × Option Nat) × Text) := do
  let (least, rest) ← decimal flags (flags.skip cs)
  match rest with
  | ',' :: rest =>
    match flags.skip rest with
    | '\x7d' :: rest => return ((← least, none), rest)
    | rest =>
      let (most, rest) ← decimal flags rest
      let least ← least
      let most ← most
      match rest with
      | '\x7d' :: rest => if least ≤ most then return ((least, some most), rest) else none
      | _ => none
  | '\x7d' :: rest => return ((← least, ← least), rest)
  | _ => none

/-- Repeats the last element of a sequence. -/
def repeatLast (flags : Flags) (least : Nat) (most : Option Nat) (marked : Bool)
    (items : List Item) : Option (List Item) :=
  match items with
  | ⟨some form, depth⟩ :: before =>
    some (⟨some (.rep least most (marked == flags.swapGreed) form), depth + 1⟩ :: before)
  | _ => none

/-- Splits off the question mark that reverses the preference of a repetition. -/
def greedMark : Text → Bool × Text
  | '?' :: rest => (true, rest)
  | rest => (false, rest)

/-- Reads the branches of a choice up to the end of the text or a closing bracket.
`done` holds the branches that are complete, `items` the elements of the current
one, both in reverse. -/
def choice : Nat → State → List (Form × Nat) → List Item → Option ((Form × Nat) × State)
  | 0, _, _, _ => none
  | fuel + 1, st, done, items =>
    let flags := st.flags
    let counted (least : Nat) (most : Option Nat) (after : Bool × Text) := do
      let items ← repeatLast flags least most after.1 items
      choice fuel { st with rest := after.2 } done items
    match flags.skip st.rest with
    | [] => some (branches done (sequence items), { st with rest := [] })
    | ')' :: rest => some (branches done (sequence items), { st with rest := ')' :: rest })
    | '|' :: rest => choice fuel { st with rest := rest } (sequence items :: done) []
    | '[' :: rest => do
      let (s, depth, rest) ← bracketClass flags rest
      choice fuel { st with rest := rest } done (⟨some (.oneOf s), depth⟩ :: items)
    | '?' :: rest => counted 0 (some 1) (greedMark rest)
    | '*' :: rest => counted 0 none (greedMark rest)
    | '+' :: rest => counted 1 none (greedMark rest)
    | '\x7b' :: rest => do
      let ((least, most), rest) ← bounds flags rest
      counted least most (greedMark (flags.skip rest))
    | '(' :: rest => do
      match ← groupOpening flags rest with
      | (.flags letters, rest) =>
        choice fuel { st with rest := rest, flags := flags.update letters } done
          (⟨none, 0⟩ :: items)
      | (.plain letters, rest) =>
        let inner := { st with rest := rest, flags := flags.update letters }
        let ((form, depth), st') ← choice fuel inner [] []
        let ')' :: rest := st'.rest | none
        choice fuel { st' with rest := rest, flags := flags } done
          (⟨some form, depth + 1⟩ :: items)
      | (.capture name, rest) =>
        let index := st.groups + 1
        let names ← match name with
          | none => some st.names
          | some name =>
            if (st.names.lookup name).isSome then none else some (st.names ++ [(name, index)])
        let inner := { st with rest := rest, groups := index, names := names }
        let ((form, depth), st') ← choice fuel inner [] []
        let ')' :: rest := st'.rest | none
        choice fuel { st' with rest := rest, flags := flags } done
          (⟨some (.group index form), depth + 1⟩ :: items)
    | cs => do
      let (form, rest) ← primitive flags cs
      choice fuel { st with rest := rest } done (⟨some form, 0⟩ :: items)

end CodeMigration.PatternParser

namespace CodeMigration

/-- A pattern together with the names of its groups. -/
structure NamedPattern where
  /-- The pattern. -/
  pattern : Pattern
  /-- The named groups and their numbers. -/
  names : List (String × Nat)

/-- Reads a written pattern. -/
def NamedPattern.parse? (written : Text) : Option NamedPattern := do
  let ((form, depth), st) ← PatternParser.choice (written.length + 1) ⟨written, {}, 0, []⟩ [] []
  if st.rest.isEmpty && depth ≤ PatternParser.depthLimit && form.room ≤ Pattern.roomLimit then
    return ⟨form.toPattern, st.names⟩
  else none

end CodeMigration
