/-!
# CodeMigration.Time.Span

Lengths of time and how they are shown: below a second in whole milliseconds,
from a second on in seconds with two decimals.

The seconds are rounded twice: first to the nearest number of 53 significant bits,
then to two decimals. Both roundings take an exact half to the even neighbour, and
both are carried out on whole numbers.
-/

namespace CodeMigration

/-- The quotient of two numbers rounded to the nearest whole number; an exact half
goes to the even neighbour. -/
def roundDiv (n d : Nat) : Nat :=
  let q := n / d
  let r := n % d
  if 2 * r < d then q else if d < 2 * r then q + 1 else if q % 2 = 0 then q else q + 1

/-- The quotient of two numbers rounded to 53 significant bits. It is meant for
quotients of at least 2^53, whose rounding is a whole number. -/
def roundBits (n d : Nat) : Nat :=
  let unit := Nat.pow 2 (Nat.log2 (n / d) - 52)
  roundDiv n (d * unit) * unit

/-- A length of time. -/
structure TimeSpan where
  /-- Whole seconds. -/
  seconds : Nat := 0
  /-- Nanoseconds beyond the seconds. -/
  nanos : Nat := 0
  deriving DecidableEq, Repr

namespace TimeSpan

/-- The span in whole milliseconds. -/
def millis (t : TimeSpan) : Nat := t.seconds * 1000 + t.nanos / 1000000

/-- The span of the given milliseconds. -/
def ofMillis (n : Nat) : TimeSpan := ⟨n / 1000, n % 1000 * 1000000⟩

/-- The weight of one second in the fixed-point sums below. -/
def scale : Nat := Nat.pow 2 90

/-- The span in seconds, as a number of 53 significant bits times the scale. -/
def scaledSeconds (t : TimeSpan) : Nat :=
  let whole := roundBits (t.seconds * scale) 1
  let part := roundBits (t.nanos * scale) 1000000000
  roundBits (whole + part) 1

/-- A number of hundredths with two decimals. -/
def showHundredths (n : Nat) : String :=
  let fraction := n % 100
  toString (n / 100) ++ "." ++ (if fraction < 10 then "0" else "") ++ toString fraction

/-- The span as it is shown. -/
def display (t : TimeSpan) : String :=
  if t.millis = 0 then "< 1ms"
  else if t.millis < 1000 then toString t.millis ++ "ms"
  else showHundredths (roundDiv (t.scaledSeconds * 100) scale) ++ "s"

end TimeSpan

end CodeMigration
