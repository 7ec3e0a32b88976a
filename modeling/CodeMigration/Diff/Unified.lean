import CodeMigration.Diff.Compaction
import CodeMigration.Path

/-!
# CodeMigration.Diff.Unified

The difference of two texts as it is shown: hunks of changed lines with a few
equal lines around them.
-/

namespace CodeMigration.Diff

/-- How many equal lines are shown around a change. -/
def contextLines : Nat := 2

/-- The last lines of a stretch of equal lines, at most as many as are shown. -/
def leadIn (s : Step) : Step :=
  if s.kind == .equal then
    let n := s.oldLength - contextLines
    (s.moveDown n).shorten n
  else s

/-- The first lines of a stretch of equal lines, at most as many as are shown. -/
def leadOut (s : Step) : Step :=
  if s.kind == .equal then s.shorten (s.oldLength - contextLines) else s

/-- The script without the equal lines at its ends that are not shown. -/
def trimEnds (steps : List Step) : List Step :=
  let steps := match steps with
    | first :: rest => leadIn first :: rest
    | [] => []
  match steps.reverse with
  | last :: before => (leadOut last :: before).reverse
  | [] => []

/-- Splits a script where more lines are equal than are shown around two changes.
`hunk` holds the steps of the current hunk, in reverse. A last hunk without a
change is left out. -/
def hunks : List Step → List Step → List (List Step)
  | [], hunk =>
    match hunk with
    | [] => []
    | [s] => if s.kind == .equal then [] else [[s]]
    | hunk => [hunk.reverse]
  | s :: rest, hunk =>
    if s.kind == .equal && 2 * contextLines < s.oldLength then
      (leadOut s :: hunk).reverse :: hunks rest [leadIn s]
    else hunks rest (s :: hunk)

/-- A stretch of lines in the header of a hunk. A single line is given by its
number; an empty stretch by the number of the line before it. -/
def showRange (start stop : Nat) : String :=
  match stop - start with
  | 0 => toString start ++ ",0"
  | 1 => toString (start + 1)
  | n => toString (start + 1) ++ "," ++ toString n

/-- A line of a hunk under its sign. -/
def showLine (sign : Char) (line : Text) : Text :=
  sign :: line ++ (if hasEnd line then [] else "\n\\ No newline at end of file\n".toList)

/-- The lines of a stretch. -/
def stretch (lines : Array Text) (start length : Nat) : List Text :=
  (lines.extract start (start + length)).toList

/-- The lines of a step, the deleted ones before the inserted ones. -/
def showStep (s : Sides) (step : Step) : Text :=
  let old := stretch s.old step.oldStart step.oldLength
  let new := stretch s.new step.newStart step.newLength
  match step.kind with
  | .equal => old.flatMap (showLine ' ')
  | _ => old.flatMap (showLine '-') ++ new.flatMap (showLine '+')

/-- A hunk with its header. -/
def showHunk (s : Sides) (steps : List Step) : Text :=
  match steps, steps.getLast? with
  | first :: _, some last =>
    let body := steps.flatMap (showStep s)
    if body.isEmpty then []
    else
      ("@@ -" ++ showRange first.oldStart last.oldEnd ++ " +" ++
        showRange first.newStart last.newEnd ++ " @@\n").toList ++ body
  | _, _ => []

/-- The difference of two texts of the file at the path. Equal texts have none. -/
def unified (path : Path) (before after : Text) : Text :=
  let s : Sides := ⟨(linesOf before).toArray, (linesOf after).toArray⟩
  match hunks (trimEnds (compactScript s)) [] with
  | [] => []
  | hs =>
    ("--- a/" ++ path.text ++ "\n+++ b/" ++ path.text ++ "\n").toList ++ hs.flatMap (showHunk s)

end CodeMigration.Diff
