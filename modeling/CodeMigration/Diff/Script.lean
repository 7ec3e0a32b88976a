import CodeMigration.Diff.Lines

/-!
# CodeMigration.Diff.Script

Edit scripts between two sequences of lines. A script is found by divide and
conquer: common lines at both ends are set aside, and what remains is split where
a shortest path from the start and one from the end meet.
-/

namespace CodeMigration.Diff

/-- What a step of a script does. -/
inductive StepKind
  /-- Lines that both sides have. -/
  | equal
  /-- Lines that only the old side has. -/
  | delete
  /-- Lines that only the new side has. -/
  | insert
  /-- Old lines with new ones in their place. -/
  | replace
  deriving DecidableEq, Repr

/-- A step of a script: a stretch of old lines and a stretch of new ones. -/
structure Step where
  /-- What the step does. -/
  kind : StepKind
  /-- The first old line. -/
  oldStart : Nat
  /-- How many old lines there are. -/
  oldLength : Nat
  /-- The first new line. -/
  newStart : Nat
  /-- How many new lines there are. -/
  newLength : Nat
  deriving DecidableEq, Repr

namespace Step

/-- Lines that both sides have. -/
def keep (oldStart newStart length : Nat) : Step := ⟨.equal, oldStart, length, newStart, length⟩

/-- Lines that only the old side has. -/
def drop (oldStart length newStart : Nat) : Step := ⟨.delete, oldStart, length, newStart, 0⟩

/-- Lines that only the new side has. -/
def add (oldStart newStart length : Nat) : Step := ⟨.insert, oldStart, 0, newStart, length⟩

/-- The old line behind the step. -/
def oldEnd (s : Step) : Nat := s.oldStart + s.oldLength

/-- The new line behind the step. -/
def newEnd (s : Step) : Nat := s.newStart + s.newLength

/-- Does the step hold no line at all? -/
def isEmpty (s : Step) : Bool := s.oldLength == 0 && s.newLength == 0

end Step

/-- The two sides of a comparison. -/
structure Sides where
  /-- The old lines. -/
  old : Array Text
  /-- The new lines. -/
  new : Array Text

namespace Sides

/-- Do the two lines exist and agree? -/
def agree (s : Sides) (i j : Nat) : Bool :=
  match s.old[i]?, s.new[j]? with
  | some a, some b => a == b
  | _, _ => false

/-- How many lines agree from the two on, at most `limit`. -/
def prefixLength (s : Sides) (i j : Nat) : Nat → Nat
  | 0 => 0
  | limit + 1 => if s.agree i j then s.prefixLength (i + 1) (j + 1) limit + 1 else 0

/-- How many lines agree before the two, at most `limit`. -/
def suffixLength (s : Sides) (i j : Nat) : Nat → Nat
  | 0 => 0
  | limit + 1 =>
    if 0 < i && 0 < j && s.agree (i - 1) (j - 1) then
      s.suffixLength (i - 1) (j - 1) limit + 1
    else 0

end Sides

/-- A stretch of old lines and a stretch of new ones that are compared. -/
structure Window where
  /-- The first old line. -/
  oldStart : Nat
  /-- The old line behind the stretch. -/
  oldEnd : Nat
  /-- The first new line. -/
  newStart : Nat
  /-- The new line behind the stretch. -/
  newEnd : Nat

namespace Window

/-- How many old lines there are. -/
def oldLength (w : Window) : Nat := w.oldEnd - w.oldStart

/-- How many new lines there are. -/
def newLength (w : Window) : Nat := w.newEnd - w.newStart

end Window

/-- The furthest old line reached on each diagonal. -/
structure Frontier where
  /-- The distance of the middle diagonal from the start of the array. -/
  middle : Nat
  /-- The old line reached, by diagonal. -/
  reach : Array Nat

namespace Frontier

/-- A frontier for diagonals up to the given distance from the middle one. -/
def ofWidth (width : Nat) : Frontier := ⟨width, Array.replicate (2 * width + 1) 0⟩

/-- The old line reached on a diagonal. -/
def get (f : Frontier) (k : Int) : Nat := f.reach.getD (f.middle + k).toNat 0

/-- Moves on along a diagonal. -/
def set (f : Frontier) (k : Int) (x : Nat) : Frontier :=
  { f with reach := f.reach.setIfInBounds (f.middle + k).toNat x }

/-- Where a path with one more change enters a diagonal: from the diagonal above
or below, whichever leads further. -/
def enter (f : Frontier) (d k : Int) : Nat :=
  if k == -d || (k != d && f.get (k - 1) < f.get (k + 1)) then f.get (k + 1)
  else f.get (k - 1) + 1

end Frontier

/-- The diagonals that paths with `d` changes can end on, highest first. -/
def diagonals (d : Nat) : List Int := (List.range (d + 1)).map fun i : Nat => (d : Int) - 2 * (i : Int)

/-- The search for the place where paths from both ends meet. -/
structure Search where
  /-- How far paths from the start have come. -/
  forward : Frontier
  /-- How far paths from the end have come. -/
  backward : Frontier
  /-- The place where they meet, counted from the start of the window. -/
  found : Option (Nat × Nat) := none

namespace Search

/-- Extends the path from the start on one diagonal. -/
def stepForward (s : Sides) (w : Window) (d : Nat) (st : Search) (k : Int) : Search :=
  if st.found.isSome then st
  else
    let n := w.oldLength
    let m := w.newLength
    let delta : Int := (n : Int) - m
    let x := st.forward.enter d k
    let y := ((x : Int) - k).toNat
    let reach :=
      if x < n && y < m then
        x + s.prefixLength (w.oldStart + x) (w.newStart + y) (Nat.min (n - x) (m - y))
      else x
    let forward := st.forward.set k reach
    -- If the lengths differ by an odd number, paths meet in this half of a round or not in it.
    let meets := delta % 2 != 0 && (k - delta).natAbs < d &&
      n ≤ reach + st.backward.get (-(k - delta))
    { st with forward := forward, found := if meets then some (x, y) else none }

/-- Extends the path from the end on one diagonal. -/
def stepBackward (s : Sides) (w : Window) (d : Nat) (st : Search) (k : Int) : Search :=
  if st.found.isSome then st
  else
    let n := w.oldLength
    let m := w.newLength
    let delta : Int := (n : Int) - m
    let x := st.backward.enter d k
    let y := ((x : Int) - k).toNat
    let advance :=
      if x < n && y < m then
        s.suffixLength (w.oldStart + (n - x)) (w.newStart + (m - y)) (Nat.min (n - x) (m - y))
      else 0
    let backward := st.backward.set k (x + advance)
    -- If they differ by an even number, it is this half.
    let meets := delta % 2 == 0 && (k - delta).natAbs ≤ d &&
      n ≤ x + advance + st.forward.get (-(k - delta))
    { st with
      backward := backward
      found := if meets then some (n - (x + advance), m - (y + advance)) else none }

/-- Tries paths with more and more changes until two meet. -/
def run (s : Sides) (w : Window) : Nat → Nat → Search → Option (Nat × Nat)
  | 0, _, _ => none
  | fuel + 1, d, st =>
    let st := (diagonals d).foldl (stepForward s w d) st
    let st := (diagonals d).foldl (stepBackward s w d) st
    match st.found with
    | some place => some place
    | none => run s w fuel (d + 1) st

end Search

/-- The place at which a window is split, if paths from both ends meet. -/
def meetingPlace (s : Sides) (w : Window) : Option (Nat × Nat) :=
  let limit := (w.oldLength + w.newLength + 1) / 2 + 1
  Search.run s w limit 0 ⟨.ofWidth (limit + 1), .ofWidth (limit + 1), none⟩

/-- The script for a window. The fuel bounds the depth of the division; every
division makes the windows smaller. -/
def scriptFor (s : Sides) : Nat → Window → List Step
  | 0, _ => []
  | fuel + 1, w =>
    let start := s.prefixLength w.oldStart w.newStart (Nat.min w.oldLength w.newLength)
    let w : Window := { w with oldStart := w.oldStart + start, newStart := w.newStart + start }
    let stop := s.suffixLength w.oldEnd w.newEnd (Nat.min w.oldLength w.newLength)
    let w : Window := { w with oldEnd := w.oldEnd - stop, newEnd := w.newEnd - stop }
    let middle : List Step :=
      if w.oldLength == 0 && w.newLength == 0 then []
      else if w.newLength == 0 then [.drop w.oldStart w.oldLength w.newStart]
      else if w.oldLength == 0 then [.add w.oldStart w.newStart w.newLength]
      else
        match meetingPlace s w with
        | some (x, y) =>
          scriptFor s fuel
              { w with oldEnd := w.oldStart + x, newEnd := w.newStart + y } ++
            scriptFor s fuel
              { w with oldStart := w.oldStart + x, newStart := w.newStart + y }
        | none =>
          [.drop w.oldStart w.oldLength w.newStart, .add w.oldStart w.newStart w.newLength]
    (if start == 0 then [] else [.keep (w.oldStart - start) (w.newStart - start) start]) ++
      middle ++ (if stop == 0 then [] else [.keep w.oldEnd w.newEnd stop])

/-- The script between the two sides. -/
def script (s : Sides) : List Step :=
  scriptFor s (s.old.size + s.new.size + 1) ⟨0, s.old.size, 0, s.new.size⟩

end CodeMigration.Diff
