/-!
# CodeMigration.Unicode.Runs

Sets of code points as run lengths: the numbers of a list are, in turn, the
length of a gap outside the set and the length of a run inside it. Large tables
are written as text and read once.
-/

namespace CodeMigration.Unicode

/-- Membership of a code point in the set that the run lengths describe. The
code point is counted down run by run, so no position has to be stored. -/
def inRuns : List Nat → Nat → Bool
  | gap :: run :: rest, n =>
    if n < gap then false
    else if n - gap < run then true
    else inRuns rest (n - gap - run)
  | _, _ => false

/-- The value that holds at a code point, for consecutive runs of one value each. -/
def valueAt {α : Type} : List (α × Nat) → Nat → Option α
  | [], _ => none
  | (value, run) :: rest, n => if n < run then some value else valueAt rest (n - run)

/-- The blank-separated words of a table's lines. -/
def tableWords (lines : List String) : List String :=
  lines.flatMap fun line => (line.splitOn " ").filter (fun word => !word.isEmpty)

/-- Reads a table of run lengths. -/
def readRuns (lines : List String) : List Nat :=
  (tableWords lines).filterMap String.toNat?

end CodeMigration.Unicode
