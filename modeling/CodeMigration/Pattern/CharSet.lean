import CodeMigration.Unicode.CaseFold
import CodeMigration.Unicode.Property

/-!
# CodeMigration.Pattern.CharSet

Sets of characters, as the expressions that describe them. A set is never
expanded: membership is computed from the expression, one equation for each way
of building a set.
-/

namespace CodeMigration

/-- A description of a set of characters. -/
inductive CharSet
  /-- No character. -/
  | empty
  /-- The characters from one to another, both included. -/
  | range (first last : Char)
  /-- Word characters of every script. -/
  | word
  /-- Decimal digits of every script. -/
  | digit
  /-- White space of every script. -/
  | space
  /-- The characters with a property. -/
  | property (p : Unicode.Property)
  /-- The characters of either set. -/
  | union (a b : CharSet)
  /-- The characters of both sets. -/
  | inter (a b : CharSet)
  /-- The characters of the first set that are not in the second. -/
  | diff (a b : CharSet)
  /-- The characters of exactly one of the sets. -/
  | symmDiff (a b : CharSet)
  /-- The characters outside the set. -/
  | compl (a : CharSet)
  /-- The characters with a case variant in the set. -/
  | caseless (a : CharSet)
  /-- The characters that are in the set up to the case of an ASCII letter. -/
  | asciiCaseless (a : CharSet)

namespace CharSet

/-- Is the character in the set? -/
def contains : CharSet → Char → Bool
  | empty, _ => false
  | range first last, c => decide (first ≤ c) && decide (c ≤ last)
  | word, c => Unicode.isWord c
  | digit, c => Unicode.isDigit c
  | space, c => Unicode.isSpace c
  | property p, c => p.holds c
  | union a b, c => a.contains c || b.contains c
  | inter a b, c => a.contains c && b.contains c
  | diff a b, c => a.contains c && !b.contains c
  | symmDiff a b, c => a.contains c != b.contains c
  | compl a, c => !a.contains c
  | caseless a, c => (Unicode.caseVariants c).any a.contains
  | asciiCaseless a, c => a.contains c || a.contains c.toLower || a.contains c.toUpper

/-- The set of one character. -/
def single (c : Char) : CharSet := range c c

/-- The set of the listed characters. -/
def ofList (cs : List Char) : CharSet := cs.foldr (fun c set => union (single c) set) empty

/-- Every character. -/
def full : CharSet := compl empty

/-- Every character but the listed ones. -/
def noneOf (cs : List Char) : CharSet := compl (ofList cs)

/-- The ASCII digits. -/
def asciiDigit : CharSet := range '0' '9'

/-- The ASCII letters. -/
def asciiAlpha : CharSet := union (range 'A' 'Z') (range 'a' 'z')

/-- The ASCII word characters. -/
def asciiWord : CharSet := union (union asciiAlpha asciiDigit) (single '_')

/-- The ASCII white space. -/
def asciiSpace : CharSet := ofList ['\t', '\n', '\x0b', '\x0c', '\r', ' ']

/-- The ASCII classes by name. -/
def asciiNamed? : String → Option CharSet
  | "alnum" => some (union asciiAlpha asciiDigit)
  | "alpha" => some asciiAlpha
  | "ascii" => some (range '\x00' '\x7f')
  | "blank" => some (ofList ['\t', ' '])
  | "cntrl" => some (union (range '\x00' '\x1f') (single '\x7f'))
  | "digit" => some asciiDigit
  | "graph" => some (range '!' '~')
  | "lower" => some (range 'a' 'z')
  | "print" => some (range ' ' '~')
  | "punct" => some (union (union (range '!' '/') (range ':' '@'))
      (union (range '[' '\x60') (range '\x7b' '~')))
  | "space" => some asciiSpace
  | "upper" => some (range 'A' 'Z')
  | "word" => some asciiWord
  | "xdigit" => some (union asciiDigit (union (range 'A' 'F') (range 'a' 'f')))
  | _ => none

/-- An estimate of the room that a matcher for the set takes, in bytes. The
classes that span all scripts are by far the largest. -/
def room : CharSet → Nat
  | empty => 32
  | range _ last => if last.toNat < 128 then 32 else 160
  | word => 46000
  | digit => 4000
  | space => 500
  | property (.category _) => 24000
  | property _ => 8000
  | union a b => a.room + b.room
  | inter a b => Nat.min a.room b.room + 64
  | diff a b => a.room + b.room
  | symmDiff a b => a.room + b.room
  | compl a => a.room + 320
  | caseless a => a.room + 64
  | asciiCaseless a => a.room

@[simp] theorem contains_union (a b : CharSet) (c : Char) :
    (union a b).contains c = (a.contains c || b.contains c) := rfl

@[simp] theorem contains_compl (a : CharSet) (c : Char) :
    (compl a).contains c = !a.contains c := rfl

@[simp] theorem contains_full (c : Char) : full.contains c = true := rfl

end CharSet

end CodeMigration
