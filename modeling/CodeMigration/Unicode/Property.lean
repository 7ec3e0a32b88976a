import CodeMigration.Unicode.Binary
import CodeMigration.Unicode.Category
import CodeMigration.Unicode.ScriptExtension

/-!
# CodeMigration.Unicode.Property

Character properties by name. Names are compared loosely: case, blanks, hyphens,
underscores and a leading `is` do not count.
-/

namespace CodeMigration.Unicode

/-- A property that a character has or has not. -/
inductive Property
  /-- Every character. -/
  | any
  /-- The first 128 characters. -/
  | ascii
  /-- Every character of a category other than unassigned. -/
  | assigned
  /-- One of the listed general categories. -/
  | category (members : List Category)
  /-- The script with this code. -/
  | script (code : String)
  /-- Use with the script with this code. -/
  | scriptExtension (code : String)
  /-- A binary property, by its run lengths. -/
  | binary (runs : List Nat)

namespace Property

/-- Does the character have the property? -/
def holds : Property → Char → Bool
  | any, _ => true
  | ascii, c => c.toNat < 128
  | assigned, c => Category.ofCodePoint c.toNat != .cn
  | category members, c => members.contains (Category.ofCodePoint c.toNat)
  | script code, c => Script.holds code c.toNat
  | scriptExtension code, c => ScriptExtension.holds code c.toNat
  | binary runs, c => inRuns runs c.toNat

/-- The normal form of a property name. The abbreviation `isc` is a name of its
own, so dropping a leading `is` never leaves a lone `c`. -/
def normalName (name : String) : String :=
  let cs := name.toList
  let lower := cs.map Char.toLower
  let isMarked := lower.take 2 == ['i', 's']
  let kept := (if isMarked then lower.drop 2 else lower).filter fun c =>
    c.toNat < 128 && c != ' ' && c != '_' && c != '-'
  String.ofList (if isMarked && kept == ['c'] then ['i', 's', 'c'] else kept)

/-- Properties that are known by name but have values other than yes and no. -/
def valuedNames : List String :=
  ["gc", "generalcategory", "sc", "script", "scx", "scriptextensions", "age", "gcb",
   "graphemeclusterbreak", "wb", "wordbreak", "sb", "sentencebreak", "blk", "block", "ccc",
   "canonicalcombiningclass", "bc", "bidiclass", "dt", "decompositiontype", "ea",
   "eastasianwidth", "lb", "linebreak", "nt", "numerictype", "nv", "numericvalue", "na", "name",
   "isc", "isocomment", "jt", "joiningtype", "jg", "joininggroup", "hst", "hangulsyllabletype"]

/-- A general category, by a name in normal form. -/
def categoryNamed? : String → Option Property
  | "any" => some any
  | "ascii" => some ascii
  | "assigned" => some assigned
  | name => (Category.named? name).map category

/-- The property that a single name stands for. Binary properties come first,
then categories, then scripts; `cf`, `sc` and `lc` are categories although they
also abbreviate properties with other values. -/
def named? (name : String) : Option Property :=
  let name := normalName name
  let isCategoryCode := name == "cf" || name == "sc" || name == "lc"
  match Binary.named? name with
  | some runs => if isCategoryCode then categoryNamed? name else some (binary runs)
  | none =>
    if valuedNames.contains name && !isCategoryCode then none
    else categoryNamed? name <|> (Script.named? name).map script

/-- The property that a name together with a value stands for. -/
def valued? (name value : String) : Option Property :=
  let value := normalName value
  match normalName name with
  | "gc" | "generalcategory" => categoryNamed? value
  | "sc" | "script" => (Script.named? value).map script
  | "scx" | "scriptextensions" => (Script.named? value).map scriptExtension
  | _ => none

end Property

/-- Is the character alphabetic? -/
def isAlphabetic (c : Char) : Bool :=
  if c.toNat < 128 then c.isAlpha else inRuns Binary.alphabetic c.toNat

/-- Is the character alphabetic or a number of any kind? -/
def isAlphanumeric (c : Char) : Bool :=
  isAlphabetic c || [Category.nd, .nl, .no].contains (Category.ofCodePoint c.toNat)

/-- Can the character be shown as it is? Control, format, private and unassigned
characters cannot, nor can separators other than the blank itself. -/
def isPrintable (c : Char) : Bool :=
  c == ' ' ||
    !([Category.cc, .cf, .cs, .co, .cn, .zl, .zp, .zs].contains (Category.ofCodePoint c.toNat))

/-- Does the character attach itself to the one before it? -/
def isExtending (c : Char) : Bool := inRuns Binary.graphemeExtend c.toNat

end CodeMigration.Unicode
