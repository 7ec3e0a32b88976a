import CodeMigration.Pattern.CharSet
import CodeMigration.Pattern.Cursor
import Std.Data.TreeSet

/-!
# CodeMigration.Pattern.Basic

Patterns and where they can end. The meaning of a pattern at a place is the list
of all threads that leave it there, most preferred first:

* `Pattern` — what a pattern is built from;
* `Thread` — a place reached, with the groups captured on the way;
* `Pattern.ends` — the threads that leave a pattern, in order of preference.

A match at a place is the first thread of the list. Of several threads that reach
one place only the first is kept, since what follows depends on the place alone;
this keeps the lists short however often a pattern repeats itself.
-/

namespace CodeMigration

/-- A pattern over texts. A `mark` numbers a choice that lies inside a repetition
of something that can be empty; see `Thread.cross?`. -/
inductive Pattern
  /-- Takes nothing. -/
  | empty
  /-- Takes the given word. -/
  | word (cs : Text)
  /-- Takes one character of the set. -/
  | one (set : CharSet)
  /-- Takes nothing, at a place that meets the condition. -/
  | look (anchor : Anchor)
  /-- The one pattern, then the other. -/
  | seq (p q : Pattern)
  /-- Either pattern, with a preference for the first. -/
  | alt (mark : Option Nat) (p q : Pattern)
  /-- Records what the pattern takes as the group with this number. -/
  | group (index : Nat) (p : Pattern)
  /-- Any number of characters of the set, as many or as few as possible. -/
  | run (mark : Option Nat) (greedy : Bool) (set : CharSet)
  /-- Any number of rounds of a pattern that takes at least one character. -/
  | star (mark : Option Nat) (greedy : Bool) (p : Pattern)
  /-- At least one round of a pattern that may take nothing. -/
  | rounds (mark : Nat) (greedy : Bool) (p : Pattern)
  /-- At most so many rounds of a pattern. -/
  | upTo (limit : Nat) (greedy : Bool) (p : Pattern)
  /-- Forgets the choices made so far, before the pattern and after it. -/
  | region (p : Pattern)

/-- A place reached by a pattern, with what was captured on the way. -/
structure Thread where
  /-- The place reached. -/
  place : Cursor
  /-- The captured groups with their ends, latest first. -/
  captures : List (Nat × Cursor × Cursor)
  /-- The numbered choices passed since the last character was taken. -/
  crossed : List Nat

namespace Thread

/-- A thread at the given place that has captured nothing. -/
def enter (place : Cursor) : Thread := ⟨place, [], []⟩

/-- The thread moved to a place further on; passed choices no longer count. -/
def moveTo (t : Thread) (place : Cursor) : Thread := { t with place := place, crossed := [] }

/-- Passes a numbered choice. A choice is passed at most once at one place:
coming back to it without having taken a character would go round for ever. -/
def cross? (t : Thread) : Option Nat → Option Thread
  | none => some t
  | some mark =>
    if t.crossed.contains mark then none else some { t with crossed := mark :: t.crossed }

/-- What the further course of the thread depends on: the place and the choices. -/
def key (t : Thread) : List Nat := t.place.offset :: t.crossed

/-- The threads without those that an earlier one makes superfluous. -/
def distinct (ts : List Thread) : List Thread :=
  match ts with
  | [] => []
  | [t] => [t]
  | ts => keep {} ts
where
  /-- Keeps the first thread of each key that was not seen before. -/
  keep (seen : Std.TreeSet (List Nat)) : List Thread → List Thread
    | [] => []
    | t :: rest =>
      if seen.contains t.key then keep seen rest else t :: keep (seen.insert t.key) rest

/-- The threads that take characters of the set one after another, the thread
itself included, the one that took most first. -/
def along (mark : Option Nat) (set : CharSet) : Text → Thread → List Thread → List Thread
  | [], t, reached => t :: reached
  | c :: rest, t, reached =>
    if set.contains c then
      let place : Cursor :=
        ⟨c :: t.place.before, rest, t.place.offset + 1, by simp [t.place.offset_eq]⟩
      along mark set rest { t with place := place, crossed := mark.toList } (t :: reached)
    else t :: reached

end Thread

/-- What a repetition has reached so far. -/
structure Sweep where
  /-- The keys of the threads from which rounds were tried, behind the number of rounds
  that were left where there is a limit. -/
  seen : Std.TreeSet (List Nat) := ∅
  /-- The threads that may leave the repetition, least preferred first. -/
  leaving : List Thread := []

namespace Sweep

/-- Lets a thread leave the repetition. -/
def leave (sweep : Sweep) (t : Thread) : Sweep := { sweep with leaving := t :: sweep.leaving }

/-- Notes that rounds are tried from a thread with so many rounds left. -/
def visit (sweep : Sweep) (left : Nat) (t : Thread) : Sweep :=
  { sweep with seen := sweep.seen.insert (left :: t.key) }

/-- Were rounds tried from the key of the thread with so many rounds left? -/
def visited (sweep : Sweep) (left : Nat) (t : Thread) : Bool := sweep.seen.contains (left :: t.key)

/-- All rounds of a repetition that start at the thread, which may itself leave
the repetition: after the rounds if the repetition is greedy, before them if not.
No round is tried twice from one key, and a round that takes nothing is not
counted. The fuel bounds the number of rounds on one path. -/
def rounds (step : Thread → List Thread) (mark : Option Nat) (greedy : Bool) :
    Nat → Thread → Sweep → Sweep
  | 0, _, sweep => sweep
  | fuel + 1, t, sweep =>
    if sweep.visited 0 t then sweep
    else
      let sweep := sweep.visit 0 t
      let sweep := if greedy then sweep else sweep.leave t
      let sweep := (step t).foldl (fun sweep u =>
        if u.place.offset ≤ t.place.offset then sweep
        else
          match u.cross? mark with
          | none => sweep
          | some u => rounds step mark greedy fuel u sweep) sweep
      if greedy then sweep.leave t else sweep

/-- All rounds of a repetition with a limit that start at the thread when so many
rounds are left. A round that takes nothing counts like any other. -/
def limited (step : Thread → List Thread) (greedy : Bool) : Nat → Thread → Sweep → Sweep
  | 0, t, sweep => sweep.leave t
  | left + 1, t, sweep =>
    if sweep.visited (left + 1) t then sweep
    else
      let sweep := sweep.visit (left + 1) t
      let sweep := if greedy then sweep else sweep.leave t
      let sweep := (step t).foldl (fun sweep u => limited step greedy left u sweep) sweep
      if greedy then sweep.leave t else sweep

/-- The threads that leave the repetition, most preferred first. -/
def threads (sweep : Sweep) : List Thread := Thread.distinct sweep.leaving.reverse

end Sweep

namespace Pattern

/-- Every thread that leaves the pattern when it is entered by the given thread,
most preferred first. -/
def ends : Pattern → Thread → List Thread
  | empty, t => [t]
  | word cs, t =>
    match t.place.afterWord? cs with
    | some place => [t.moveTo place]
    | none => []
  | one set, t =>
    match t.place.after with
    | [] => []
    | c :: rest =>
      if set.contains c then
        [t.moveTo ⟨c :: t.place.before, rest, t.place.offset + 1, by simp [t.place.offset_eq]⟩]
      else []
  | look anchor, t => if anchor.holds t.place then [t] else []
  | seq p q, t => Thread.distinct ((p.ends t).flatMap q.ends)
  | alt mark p q, t =>
    match t.cross? mark with
    | none => []
    | some t => Thread.distinct (p.ends t ++ q.ends t)
  | group index p, t =>
    (p.ends t).map fun u => { u with captures := (index, t.place, u.place) :: u.captures }
  | run mark greedy set, t =>
    match t.cross? mark with
    | none => []
    | some t =>
      let reached := Thread.along mark set t.place.after t []
      if greedy then reached else reached.reverse
  | star mark greedy p, t =>
    match t.cross? mark with
    | none => []
    | some t => (Sweep.rounds p.ends mark greedy (t.place.after.length + 1) t {}).threads
  | rounds mark greedy p, t =>
    ((p.ends t).foldl (fun (sweep : Sweep) u =>
      match u.cross? (some mark) with
      | none => sweep
      | some u =>
        -- The first round may take nothing, but then no other follows it.
        if u.place.offset ≤ t.place.offset then sweep.leave u
        else Sweep.rounds p.ends (some mark) greedy (u.place.after.length + 1) u sweep)
      {}).threads
  | upTo limit greedy p, t => (Sweep.limited p.ends greedy limit t {}).threads
  | region p, t =>
    Thread.distinct ((p.ends { t with crossed := [] }).map fun u => { u with crossed := [] })

/-! ### Building patterns -/

/-- The patterns one after another. Grouped to the left, so that superfluous threads
go as soon as another pattern is passed. -/
def seqs : List Pattern → Pattern
  | [] => empty
  | p :: ps => ps.foldl seq p

/-- The first of the patterns that leads to a match. -/
def alts : List Pattern → Pattern
  | [] => one .empty
  | [p] => p
  | p :: ps => alt none p (alts ps)

/-- The pattern or nothing, with a preference for the pattern. -/
def optional (p : Pattern) : Pattern := alt none p empty

/-- As many characters of the set as possible. -/
def many (set : CharSet) : Pattern := run none true set

/-- As few characters of the set as possible. -/
def few (set : CharSet) : Pattern := run none false set

/-- As many characters of the set as possible, but at least one. -/
def many1 (set : CharSet) : Pattern := seq (one set) (many set)

/-- The given word. -/
def literal (s : String) : Pattern := word s.toList

/-- A place with a word character on exactly one side. -/
def boundary : Pattern := look (.wordBoundary Unicode.isWord)

/-! ### Room -/

/-- An estimate of the room that a matcher for the pattern takes, in bytes. -/
def room : Pattern → Nat
  | empty => 32
  | word cs => 32 * cs.foldr (fun c bytes => bytes + c.utf8Size) 0
  | one set => set.room
  | look _ => 32
  | seq p q => p.room + q.room
  | alt _ p q => p.room + q.room + 36
  | group _ p => p.room + 64
  | run _ _ set => set.room + 68
  | star _ _ p => p.room + 68
  | rounds _ _ p => p.room + 68
  | upTo limit _ p => limit * (p.room + 36) + 32
  | region p => p.room

/-- The most room that a matcher may take. -/
def roomLimit : Nat := 10 * 1024 * 1024

/-- Is there room for a matcher for the pattern? -/
def hasRoom (p : Pattern) : Bool := p.room ≤ roomLimit

end Pattern

end CodeMigration
