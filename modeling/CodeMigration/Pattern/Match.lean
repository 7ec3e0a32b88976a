import CodeMigration.Pattern.Basic

/-!
# CodeMigration.Pattern.Match

Matches of a pattern in a text: the leftmost one, all that do not overlap, and
the text with every match replaced.
-/

namespace CodeMigration

/-- A part of a text that a pattern takes. -/
structure Match where
  /-- Where the part begins. -/
  start : Cursor
  /-- Where the part ends. -/
  stop : Cursor
  /-- The captured groups with their ends, latest first. -/
  captures : List (Nat × Cursor × Cursor)

namespace Match

/-- The text of the match. -/
def text (m : Match) : Text := m.start.textUntil m.stop

/-- Does the match take no character? -/
def isEmpty (m : Match) : Bool := m.start.offset == m.stop.offset

/-- The ends of a group; group 0 is the match itself. -/
def span? (m : Match) (index : Nat) : Option (Cursor × Cursor) :=
  if index = 0 then some (m.start, m.stop) else m.captures.lookup index

/-- The text of a group, when the group took part in the match. -/
def group? (m : Match) (index : Nat) : Option Text :=
  (m.span? index).map fun (start, stop) => start.textUntil stop

/-- The text of a group, empty when the group took no part in the match. -/
def group (m : Match) (index : Nat) : Text := (m.group? index).getD []

end Match

namespace Pattern

/-- The preferred match that begins at the place. -/
def matchAt? (p : Pattern) (place : Cursor) : Option Match :=
  match p.ends (Thread.enter place) with
  | [] => none
  | t :: _ => some ⟨place, t.place, t.captures⟩

/-- The leftmost match that begins at the place or after it. -/
def findFrom? (p : Pattern) (place : Cursor) : Option Match :=
  match p.matchAt? place with
  | some m => some m
  | none =>
    match _h : place.next? with
    | none => none
    | some next => p.findFrom? next
termination_by place.after.length
decreasing_by exact Cursor.length_after_next? _h

/-- The leftmost match in the text. -/
def find? (p : Pattern) (text : Text) : Option Match := p.findFrom? (Cursor.start text)

/-- Does the pattern match somewhere in the text? -/
def isMatch (p : Pattern) (text : Text) : Bool := (p.find? text).isSome

/-- The match that follows one that ended at the place. An empty match right
there is passed over, and the search goes on one character later. -/
def findAfter? (p : Pattern) (place : Cursor) : Option Match :=
  match p.findFrom? place with
  | none => none
  | some m =>
    if m.isEmpty && m.stop.offset == place.offset then place.next?.bind p.findFrom? else some m

/-- All matches that follow one that ended at the place. Each of them ends
further on than the last; the test says so to the recursion. -/
def matchesAfter (p : Pattern) (place : Cursor) : List Match :=
  match p.findAfter? place with
  | none => []
  | some m =>
    if m.stop.after.length < place.after.length then m :: p.matchesAfter m.stop else [m]
termination_by place.after.length

/-- All matches in the text that do not overlap, from left to right. -/
def matchesIn (p : Pattern) (text : Text) : List Match :=
  match p.find? text with
  | none => []
  | some m => m :: p.matchesAfter m.stop

end Pattern

/-- The text from a place on with each match replaced by what is made of it. The
matches lie after the place, in order. -/
def spliceFrom (replace : Match → Text) (place : Cursor) : List Match → Text
  | [] => place.after
  | m :: ms => place.textUntil m.start ++ replace m ++ spliceFrom replace m.stop ms

namespace Pattern

/-- The text with every match replaced by what is made of it. -/
def replaceAll (p : Pattern) (replace : Match → Text) (text : Text) : Text :=
  spliceFrom replace (Cursor.start text) (p.matchesIn text)

end Pattern

end CodeMigration
