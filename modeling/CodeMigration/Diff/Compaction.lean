import CodeMigration.Diff.Script

/-!
# CodeMigration.Diff.Compaction

Scripts made easier to read. Deletions and then insertions are moved up and down
past lines they agree with, so that changes that can stand together do; at the
end, a deletion and an insertion side by side become one replacement.
-/

namespace CodeMigration.Diff

/-- A script with one step picked out. -/
structure Focus where
  /-- The steps before, nearest first. -/
  before : List Step
  /-- The step in focus. -/
  here : Step
  /-- The steps after. -/
  after : List Step

namespace Step

/-- The step moved up by some lines. -/
def moveUp (s : Step) (n : Nat) : Step :=
  { s with oldStart := s.oldStart - n, newStart := s.newStart - n }

/-- The step moved down by some lines. -/
def moveDown (s : Step) (n : Nat) : Step :=
  { s with oldStart := s.oldStart + n, newStart := s.newStart + n }

/-- The step with its stretches longer by some lines; a side that the step does
not have stays without lines. -/
def lengthen (s : Step) (n : Nat) : Step :=
  match s.kind with
  | .delete => { s with oldLength := s.oldLength + n }
  | .insert => { s with newLength := s.newLength + n }
  | _ => { s with oldLength := s.oldLength + n, newLength := s.newLength + n }

/-- The step with its stretches shorter by some lines. -/
def shorten (s : Step) (n : Nat) : Step :=
  { s with oldLength := s.oldLength - n, newLength := s.newLength - n }

/-- How many lines the step changes. -/
def changedLength (s : Step) : Nat :=
  match s.kind with
  | .delete => s.oldLength
  | _ => s.newLength

end Step

/-- The steps without one at the front that holds no lines. -/
def dropEmpty : List Step → List Step
  | s :: rest => if s.isEmpty then rest else s :: rest
  | [] => []

namespace Focus

/-- Moves the step in focus up as far as it goes: past lines that agree with its
end, past a change of the other kind, and into a change of its own kind. -/
def up (s : Sides) : Nat → Focus → Focus
  | 0, f => f
  | fuel + 1, f =>
    match f.before with
    | [] => f
    | prev :: before =>
      if prev.kind == .equal then
        let n := s.suffixLength prev.oldEnd f.here.newEnd
          (Nat.min prev.oldLength f.here.newLength)
        if 0 < n then
          -- The last lines before the step agree with its own last lines and go behind it.
          let after := match f.after with
            | next :: rest =>
              if next.kind == .equal then (next.moveUp n).lengthen n :: rest
              else .keep (prev.oldEnd - n) (f.here.newEnd - n) n :: next :: rest
            | [] => [.keep (prev.oldEnd - n) (f.here.newEnd - n) n]
          up s fuel ⟨dropEmpty (prev.shorten n :: before), f.here.moveUp n, after⟩
        else if prev.isEmpty then up s fuel { f with before := before }
        else f
      -- Two changes of one kind become one.
      else if prev.kind == f.here.kind then
        up s fuel ⟨before, prev.lengthen f.here.changedLength, f.after⟩
      else up s fuel ⟨before, f.here, prev :: f.after⟩

/-- Moves the step in focus down as far as it goes. -/
def down (s : Sides) : Nat → Focus → Focus
  | 0, f => f
  | fuel + 1, f =>
    match f.after with
    | [] => f
    | next :: after =>
      if next.kind == .equal then
        let n := s.prefixLength next.oldStart f.here.newStart
          (Nat.min next.oldLength f.here.newLength)
        if 0 < n then
          let before := match f.before with
            | prev :: rest =>
              if prev.kind == .equal then prev.lengthen n :: rest
              else .keep next.oldStart f.here.newStart n :: prev :: rest
            | [] => [.keep next.oldStart f.here.newStart n]
          down s fuel
            ⟨before, f.here.moveDown n, dropEmpty ((next.moveDown n).shorten n :: after)⟩
        else if next.isEmpty then down s fuel { f with after := after }
        else f
      else if next.kind == f.here.kind then
        down s fuel ⟨f.before, f.here.lengthen next.changedLength, after⟩
      else down s fuel ⟨next :: f.before, f.here, after⟩

/-- Moves every step of the given kind, from the one in focus on. -/
def sweep (s : Sides) (kind : StepKind) (moves : Nat) : Nat → Focus → List Step
  | 0, f => f.before.reverse ++ f.here :: f.after
  | fuel + 1, f =>
    let f := if f.here.kind == kind then down s moves (up s moves f) else f
    match f.after with
    | [] => f.before.reverse ++ [f.here]
    | next :: after => sweep s kind moves fuel ⟨f.here :: f.before, next, after⟩

end Focus

/-- Moves every step of one kind. -/
def compactKind (s : Sides) (kind : StepKind) (steps : List Step) : List Step :=
  match steps with
  | [] => []
  | first :: rest =>
    let size := 2 * (s.old.size + s.new.size + steps.length) + 2
    Focus.sweep s kind size (size * size) ⟨[], first, rest⟩

/-- Steps under way to being joined: equal lines, deleted lines, inserted lines. -/
structure Pending where
  /-- Equal lines so far. -/
  equal : Option Step := none
  /-- Deleted lines so far. -/
  deleted : Option Step := none
  /-- Inserted lines so far. -/
  inserted : Option Step := none

namespace Pending

/-- The finished change: a replacement if there are lines of both kinds. -/
def change (p : Pending) : List Step :=
  match p.deleted, p.inserted with
  | some d, some i => [⟨.replace, d.oldStart, d.oldLength, i.newStart, i.newLength⟩]
  | some d, none => [d]
  | none, some i => [i]
  | none, none => []

/-- A step joined to those of its kind before it. -/
def extend (old : Option Step) (s : Step) : Step :=
  match old with
  | some o => o.lengthen s.changedLength
  | none => s

end Pending

/-- Joins neighbouring steps of one kind, and deletions with insertions. -/
def joinSteps : List Step → Pending → List Step
  | [], p => p.equal.toList ++ p.change
  | s :: rest, p =>
    match s.kind with
    | .equal => p.change ++ joinSteps rest { equal := some (Pending.extend p.equal s) }
    | .delete =>
      p.equal.toList ++
        joinSteps rest { p with equal := none, deleted := some (Pending.extend p.deleted s) }
    | _ =>
      p.equal.toList ++
        joinSteps rest { p with equal := none, inserted := some (Pending.extend p.inserted s) }

/-- The script between the two sides in its readable form. -/
def compactScript (s : Sides) : List Step :=
  joinSteps (compactKind s .insert (compactKind s .delete (script s))) {}

end CodeMigration.Diff
