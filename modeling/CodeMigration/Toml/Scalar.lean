import CodeMigration.Toml

/-!
# CodeMigration.Toml.Scalar

Values without quotes and brackets: truth values, whole numbers in four bases,
numbers with a fraction, dates and times of day.
-/

namespace CodeMigration.Toml.Scalar

/-! ### Digits -/

/-- The value of a digit in bases up to sixteen. -/
def digitValue (c : Char) : Nat :=
  if c.isDigit then c.toNat - '0'.toNat
  else if 'a' ≤ c ∧ c ≤ 'f' then c.toNat - 'a'.toNat + 10
  else if 'A' ≤ c ∧ c ≤ 'F' then c.toNat - 'A'.toNat + 10
  else 16

/-- Is the character a digit of the base? -/
def isDigitOf (base : Nat) (c : Char) : Bool := digitValue c < base

/-- The number that digits stand for. -/
def number (base : Nat) (digits : Text) : Nat :=
  digits.foldl (fun n c => n * base + digitValue c) 0

/-- Are these digits with single underscores between some of them? -/
def isDigits (base : Nat) (chars : Text) : Bool :=
  (chars.splitAtChar '_').all fun part => !part.isEmpty && part.all (isDigitOf base)

/-- The digits without underscores. -/
def plainDigits (chars : Text) : Text := chars.filter (· != '_')

/-- Are these the digits of a whole number, without needless zeros in front? -/
def isWhole (chars : Text) : Bool :=
  isDigits 10 chars && (chars == ['0'] || chars.head? != some '0')

/-- Takes a sign off the front; a number without sign is positive. -/
def splitSign (chars : Text) : Bool × Text :=
  match chars with
  | '-' :: rest => (true, rest)
  | '+' :: rest => (false, rest)
  | _ => (false, chars)

/-! ### Whole numbers -/

/-- The largest whole number. -/
def maxInteger : Nat := Nat.pow 2 63 - 1

/-- Reads a whole number in decimal digits, or without sign in base two, eight or
sixteen. -/
def integer? (chars : Text) : Option Int :=
  let unsigned (base : Nat) (digits : Text) : Option Int :=
    let n := number base (plainDigits digits)
    if isDigits base digits && n ≤ maxInteger then some n else none
  match chars with
  | '0' :: 'x' :: digits => unsigned 16 digits
  | '0' :: 'o' :: digits => unsigned 8 digits
  | '0' :: 'b' :: digits => unsigned 2 digits
  | _ =>
    let (negative, digits) := splitSign chars
    let n := number 10 (plainDigits digits)
    if !isWhole digits then none
    else if negative then if n ≤ maxInteger + 1 then some (-n) else none
    else if n ≤ maxInteger then some n
    else none

/-! ### Numbers with a fraction -/

/-- The parts of a number with a fraction or an exponent: the sign, the digits before
and behind the point, the sign of the exponent, and its digits. -/
structure FloatParts where
  /-- Is the number below zero? -/
  negative : Bool
  /-- The digits before the point. -/
  whole : Text
  /-- The digits behind the point. -/
  fraction : Text
  /-- Is the exponent below zero? -/
  shrinks : Bool
  /-- The exponent. -/
  exponent : Nat

/-- Reads the parts of a number. There has to be a fraction or an exponent. -/
def floatParts? (chars : Text) : Option FloatParts :=
  let isMark (c : Char) : Bool := c == 'e' || c == 'E'
  let (negative, rest) := splitSign chars
  let mantissa := rest.takeWhile fun c => !isMark c
  let whole := mantissa.takeWhile (· != '.')
  let fraction := (mantissa.dropWhile (· != '.')).drop 1
  let hasPoint := mantissa.contains '.'
  let tail := (rest.dropWhile fun c => !isMark c).drop 1
  let hasExponent := rest.any isMark
  let (shrinks, power) := splitSign tail
  if isWhole whole && (hasPoint || hasExponent) && (!hasPoint || isDigits 10 fraction) &&
      (!hasExponent || isDigits 10 power) then
    some ⟨negative, plainDigits whole, plainDigits fraction, shrinks,
      number 10 (plainDigits power)⟩
  else none

/-- The least number that is too large: half a unit in the last place above the
largest number with 53 binary digits and an exponent of 1023. -/
def floatLimit : Nat := (Nat.pow 2 54 - 1) * Nat.pow 2 970

/-- Is the number above zero and too large? Numbers of 310 or more digits before the
point are, and those with fewer than 309 are not. -/
def FloatParts.overflows (parts : FloatParts) : Bool :=
  let digits := (parts.whole ++ parts.fraction).dropWhile (· == '0')
  let n := number 10 digits
  let size : Int := digits.length - parts.fraction.length +
    (if parts.shrinks then -(parts.exponent : Int) else parts.exponent)
  let scale : Int := size - digits.length
  if parts.negative || digits.isEmpty || size < 309 then false
  else if 309 < size then true
  -- A negative power of ten goes to the other side of the comparison.
  else floatLimit * Nat.pow 10 (-scale).toNat ≤ n * Nat.pow 10 scale.toNat

/-- Is this a number with a fraction? -/
def isFloat (chars : Text) : Bool :=
  let name := (splitSign chars).2
  name == "inf".toList || name == "nan".toList ||
    (floatParts? chars).any fun parts => !parts.overflows

/-! ### Dates and times of day -/

/-- Reads a fixed number of digits as a number between bounds. -/
def readField? (width low high : Nat) (chars : Text) : Option (Nat × Text) :=
  let digits := chars.take width
  let n := number 10 digits
  if digits.length = width && digits.all (isDigitOf 10) && low ≤ n && n ≤ high then
    some (n, chars.drop width)
  else none

/-- Reads a certain character. -/
def readMark? (mark : Char) : Text → Option Text
  | [] => none
  | c :: rest => if c = mark then some rest else none

/-- The number of days of a month. -/
def daysIn (year month : Nat) : Nat :=
  let leap := year % 4 = 0 ∧ (year % 100 ≠ 0 ∨ year % 400 = 0)
  if month = 2 then if leap then 29 else 28
  else if month = 4 ∨ month = 6 ∨ month = 9 ∨ month = 11 then 30
  else 31

/-- Reads a date. -/
def readDate? (chars : Text) : Option Text := do
  let (year, rest) ← readField? 4 0 9999 chars
  let rest ← readMark? '-' rest
  let (month, rest) ← readField? 2 1 12 rest
  let rest ← readMark? '-' rest
  let (_, rest) ← readField? 2 1 (daysIn year month) rest
  return rest

/-- Reads hours and minutes. -/
def readHours? (chars : Text) : Option Text := do
  let (_, rest) ← readField? 2 0 23 chars
  let rest ← readMark? ':' rest
  let (_, rest) ← readField? 2 0 59 rest
  return rest

/-- Reads a time of day. There may be a leap second and a fraction of a second. -/
def readTime? (chars : Text) : Option Text := do
  let rest ← readHours? chars
  let rest ← readMark? ':' rest
  let (_, rest) ← readField? 2 0 60 rest
  match rest with
  | '.' :: more =>
    if more.head?.any (isDigitOf 10) then return more.dropWhile (isDigitOf 10) else none
  | _ => return rest

/-- Is this the distance from universal time? -/
def isOffset : Text → Bool
  | ['Z'] => true
  | ['z'] => true
  | '+' :: rest => readHours? rest == some []
  | '-' :: rest => readHours? rest == some []
  | _ => false

/-- Is this a date, a time of day, or both? -/
def isMoment (chars : Text) : Bool :=
  match readDate? chars with
  | none => readTime? chars == some []
  | some [] => true
  | some (mark :: rest) =>
    (mark == 'T' || mark == 't' || mark == ' ') &&
      (readTime? rest).any fun rest => rest.isEmpty || isOffset rest

/-! ### Any of them -/

/-- Can the character belong to a value without quotes? -/
def isScalarChar (c : Char) : Bool :=
  c.isAlphanum || c == '+' || c == '-' || c == '_' || c == '.' || c == ':'

/-- The value that some characters stand for. -/
def value? (chars : Text) : Option Value :=
  if chars == "true".toList then some (.boolean true)
  else if chars == "false".toList then some (.boolean false)
  else if isMoment chars then some (.moment chars)
  else if isFloat chars then some (.float chars)
  else (integer? chars).map .integer

/-- Takes the characters of a value without quotes off the front. A date may be
followed by a blank and a time of day. -/
def split (chars : Text) : Text × Text :=
  let first := chars.takeWhile isScalarChar
  match chars.dropWhile isScalarChar with
  | ' ' :: c :: rest =>
    if readDate? first == some [] && isDigitOf 10 c then
      (first ++ ' ' :: (c :: rest).takeWhile isScalarChar, (c :: rest).dropWhile isScalarChar)
    else (first, ' ' :: c :: rest)
  | rest => (first, rest)

end CodeMigration.Toml.Scalar
