/-!
# CodeMigration.Time.Stamp

Points in time, counted in seconds from the start of 1970, and the two forms in
which they are shown. Years have at least four digits; those before the year 0 and
after 9999 have a sign.
-/

namespace CodeMigration

/-- A point in time. -/
structure TimeStamp where
  /-- Seconds since the start of 1970. -/
  seconds : Int := 0
  /-- Nanoseconds beyond the seconds. -/
  nanos : Nat := 0
  deriving DecidableEq, Repr

namespace TimeStamp

/-- The date of a day counted from the start of 1970, as year, month and day. Days
are counted in cycles of 400 years that begin in March, so that leap days come
last. -/
def dateOf (day : Int) : Int × Nat × Nat :=
  -- So many days lie between the first of March of the year 0 and the start of 1970.
  let shifted := day + 719468
  let cycle := shifted.fdiv 146097
  let dayOfCycle := (shifted.fmod 146097).toNat
  let yearOfCycle :=
    (dayOfCycle - dayOfCycle / 1460 + dayOfCycle / 36524 - dayOfCycle / 146096) / 365
  let dayOfYear := dayOfCycle - (365 * yearOfCycle + yearOfCycle / 4 - yearOfCycle / 100)
  let monthFromMarch := (5 * dayOfYear + 2) / 153
  let dayOfMonth := dayOfYear - (153 * monthFromMarch + 2) / 5 + 1
  let month := if monthFromMarch < 10 then monthFromMarch + 3 else monthFromMarch - 9
  let year := cycle * 400 + yearOfCycle + (if month ≤ 2 then 1 else 0)
  (year, month, dayOfMonth)

/-- A number with at least the given count of digits. -/
def padded (width n : Nat) : String :=
  let digits := toString n
  String.ofList (List.replicate (width - digits.length) '0') ++ digits

/-- A year with its sign where it needs one. -/
def showYear (year : Int) : String :=
  if 0 ≤ year ∧ year ≤ 9999 then padded 4 year.toNat
  else (if year < 0 then "-" else "+") ++ padded 4 year.natAbs

/-- The date, a separator and the time of the day. -/
def showSeconds (t : TimeStamp) (separator : String) : String :=
  let (year, month, day) := dateOf (t.seconds.fdiv 86400)
  let second := (t.seconds.fmod 86400).toNat
  showYear year ++ "-" ++ padded 2 month ++ "-" ++ padded 2 day ++ separator ++
    padded 2 (second / 3600) ++ ":" ++ padded 2 (second / 60 % 60) ++ ":" ++
    padded 2 (second % 60)

/-- The fraction of the second in three, six or nine digits, none if it is zero. -/
def showFraction (nanos : Nat) : String :=
  if nanos = 0 then ""
  else if nanos % 1000000 = 0 then "." ++ padded 3 (nanos / 1000000)
  else if nanos % 1000 = 0 then "." ++ padded 6 (nanos / 1000)
  else "." ++ padded 9 nanos

/-- The point in time for machines. -/
def exact (t : TimeStamp) : String := t.showSeconds "T" ++ showFraction t.nanos ++ "Z"

/-- The point in time for readers. -/
def display (t : TimeStamp) : String := t.showSeconds " " ++ " UTC"

end TimeStamp

end CodeMigration
