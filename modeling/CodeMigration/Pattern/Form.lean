import CodeMigration.Pattern.Basic

/-!
# CodeMigration.Pattern.Form

Written patterns after reading: counted repetitions are still counted, and no
choice is numbered. `Form.toPattern` spells the counts out and numbers the
choices that lie inside a repetition of something that can be empty.
-/

namespace CodeMigration

/-- A pattern as it is written. -/
inductive Form
  /-- Nothing. -/
  | empty
  /-- One given character. -/
  | char (c : Char)
  /-- One character of a set. -/
  | oneOf (s : CharSet)
  /-- A condition on the place. -/
  | look (anchor : Anchor)
  /-- One form after another. -/
  | seq (a b : Form)
  /-- Either form. -/
  | alt (a b : Form)
  /-- A captured group. -/
  | group (index : Nat) (a : Form)
  /-- A repetition; without an upper bound there is no limit. -/
  | rep (least : Nat) (most : Option Nat) (greedy : Bool) (a : Form)

namespace Form

/-- Can the form take nothing? -/
def nullable : Form → Bool
  | empty => true
  | char _ => false
  | oneOf _ => false
  | look _ => true
  | seq a b => a.nullable && b.nullable
  | alt a b => a.nullable || b.nullable
  | group _ a => a.nullable
  | rep least _ _ a => least == 0 || a.nullable

/-- The set of characters of a form that takes exactly one. -/
def charSet? : Form → Option CharSet
  | char c => some (.single c)
  | oneOf s => some s
  | _ => none

/-- An estimate of the room that a matcher for the form takes, in bytes. It is made here and
not from the pattern, in which the copies of a counted form are written out. -/
def room : Form → Nat
  | empty => 32
  | char c => 32 * c.utf8Size
  | oneOf s => s.room
  | look _ => 32
  | seq a b => a.room + b.room
  | alt a b => a.room + b.room + 36
  | group _ a => a.room + 64
  | rep least most _ a => most.getD (Nat.max least 1) * (a.room + 36) + 32

/-- Hands out the number of a choice, if choices are numbered here. -/
def freshMark (numbered : Bool) : StateM Nat (Option Nat) := do
  if numbered then
    return some (← modifyGet fun n => (n, n + 1))
  else return none

/-- Either of two patterns; the first is preferred by a greedy choice. -/
def choose (mark : Option Nat) (greedy : Bool) (p q : Pattern) : Pattern :=
  if greedy then .alt mark p q else .alt mark q p

/-- The pattern that a form stands for. Every copy of a repeated form numbers its
own choices; outside of repetitions that can go round without taking a character
no choice needs a number, and all rounds with a limit share one copy. -/
def lower : Form → Bool → StateM Nat Pattern
  | empty, _ => return .empty
  | char c, _ => return .word [c]
  | oneOf s, _ => return .one s
  | look anchor, _ => return .look anchor
  | seq a b, numbered => return .seq (← a.lower numbered) (← b.lower numbered)
  | alt a b, numbered => do
    let mark ← freshMark numbered
    return .alt mark (← a.lower numbered) (← b.lower numbered)
  | group index a, numbered => return .group index (← a.lower numbered)
  | rep _ (some 0) _ _, _ => return .empty
  | rep least (some most) greedy a, numbered => do
    let required ← (List.replicate least ()).mapM fun _ => a.lower numbered
    if numbered then
      let offered ← (List.replicate (most - least) ()).mapM fun _ => do
        return (← freshMark numbered, ← a.lower numbered)
      let rest := offered.foldr
        (fun (mark, p) rest => choose mark greedy (.seq p rest) .empty) Pattern.empty
      return .seq (Pattern.seqs required) rest
    else if most ≤ least then return Pattern.seqs required
    else return .seq (Pattern.seqs required) (.upTo (most - least) greedy (← a.lower false))
  | rep least none greedy a, numbered => do
    if a.nullable then
      -- The last of the required rounds is the first one of the loop.
      let required ← (List.replicate (least - 1) ()).mapM fun _ => a.lower numbered
      let mark ← modifyGet fun n => (n, n + 1)
      let question ← freshMark true
      let rounds := Pattern.rounds mark greedy (← a.lower true)
      let loop := if least = 0 then choose question greedy rounds .empty else rounds
      return .seq (Pattern.seqs required) (if numbered then loop else .region loop)
    else
      let required ← (List.replicate least ()).mapM fun _ => a.lower numbered
      let mark ← freshMark numbered
      let loop ← match a.charSet? with
        | some s => pure (Pattern.run mark greedy s)
        | none => return .seq (Pattern.seqs required) (.star mark greedy (← a.lower numbered))
      return .seq (Pattern.seqs required) loop

/-- The pattern that a form stands for. -/
def toPattern (a : Form) : Pattern := ((a.lower false).run 0).1

end Form

end CodeMigration
