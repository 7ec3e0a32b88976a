import CodeMigration.Proofs.ImportLists
import Mathlib.Data.List.Perm.Basic

/-!
# CodeMigration.Proofs.AddedLines

A new import as a line of its own. The new line above the usage anchor always is one, since it
goes where a line begins. The one behind the anchor import goes where the match of that import
ends, and the rest of the line goes down with it: with a comment behind the anchor, the line
`import { a } from 'x' // a` gives way to `import { a } from 'x' ` and `import { b } from 'y'// a`.

So the lines of the text are left as they were just if the line ends with the anchor import
(`ImportRule.addsLineAt_iff`), up to the odd case of an anchor import that is the new line itself.
-/

namespace CodeMigration

namespace Text

/-! ### Lines -/

/-- The lines of a text, between its line feeds. -/
def lines (text : Text) : List Text := splitAtChar '\n' text

theorem lines_append_newline (x y : Text) : lines (x ++ '\n' :: y) = lines x ++ lines y := by
  rw [lines, splitAtChar_eq_splitOnP, List.splitOnP_append_cons x y (by rfl),
    ← splitAtChar_eq_splitOnP, ← splitAtChar_eq_splitOnP]
  rfl

theorem lines_of_not_mem {x : Text} (h : '\n' ∉ x) : lines x = [x] := by
  rw [lines, splitAtChar_eq_splitOnP]
  exact List.splitOnP_eq_singleton fun c hc => beq_eq_false_iff_ne.2 (ne_of_mem_of_not_mem hc h)

theorem lines_append {x : Text} (h : '\n' ∉ x) (y : Text) :
    lines (x ++ '\n' :: y) = x :: lines y := by
  rw [lines_append_newline, lines_of_not_mem h]
  rfl

theorem newline_not_mem_lastLine (x : Text) : '\n' ∉ lastLine x := by
  intro hmem
  exact absurd (List.mem_takeWhile_imp (List.mem_reverse.1 hmem)) (by decide)

theorem takeWhile_line {x : Text} (h : '\n' ∉ x) (y : Text) :
    (x ++ '\n' :: y).takeWhile (· != '\n') = x := by
  rw [List.takeWhile_append_of_pos fun c hc => by simpa using ne_of_mem_of_not_mem hc h]
  simp

theorem takeWhile_of_not_mem {x : Text} (h : '\n' ∉ x) : x.takeWhile (· != '\n') = x := by
  rw [List.takeWhile_eq_self_iff]
  exact fun c hc => by simpa using ne_of_mem_of_not_mem hc h

/-- The lines above the last one are the same whatever follows the text. -/
theorem exists_lines_above (x : Text) :
    ∃ above, ∀ y, lines (x ++ y) = above ++ lines (lastLine x ++ y) := by
  by_cases hx : '\n' ∈ x.reverse
  · obtain ⟨last, before, hrev, hlast⟩ := List.eq_append_cons_of_mem hx
    refine ⟨lines before.reverse, fun y => ?_⟩
    have hsplit : x = before.reverse ++ '\n' :: lastLine x := by
      rw [lastLine, hrev, takeWhile_line hlast]
      simpa using congrArg List.reverse hrev
    conv_lhs => rw [hsplit, List.append_assoc, List.cons_append, lines_append_newline]
  · refine ⟨[], fun y => ?_⟩
    rw [lastLine, takeWhile_of_not_mem hx, List.reverse_reverse, List.nil_append]

/-- The lines below the first one are the same whatever stands before the text. -/
theorem exists_lines_below (y : Text) :
    ∃ below, ∀ x, '\n' ∉ x → lines (x ++ y) = (x ++ y.takeWhile (· != '\n')) :: below := by
  by_cases hy : '\n' ∈ y
  · obtain ⟨first, behind, rfl, hfirst⟩ := List.eq_append_cons_of_mem hy
    refine ⟨lines behind, fun x hx => ?_⟩
    rw [takeWhile_line hfirst, ← List.append_assoc, lines_append (List.not_mem_append hx hfirst)]
  · refine ⟨[], fun x hx => ?_⟩
    rw [takeWhile_of_not_mem hy, lines_of_not_mem (List.not_mem_append hx hy)]

theorem newline_not_mem_of_mem_lines {line text : Text} (h : line ∈ lines text) :
    '\n' ∉ line := by
  rw [lines, splitAtChar_eq_splitOnP] at h
  induction text generalizing line with
  | nil =>
      obtain rfl := List.mem_singleton.1 h
      simp
  | cons c text ih =>
      rw [List.splitOnP_cons_eq_if_modifyHead] at h
      split at h
      · rcases List.mem_cons.1 h with rfl | hline
        · simp
        · exact ih hline
      · next hc =>
        obtain ⟨first, others, hparts⟩ := List.exists_cons_of_ne_nil
          (List.splitOnP_ne_nil (· == '\n') text)
        rw [hparts] at h ih
        rcases List.mem_cons.1 h with rfl | hline
        · rw [List.mem_cons, not_or]
          exact ⟨fun heq => hc (by simp [← heq]), ih List.mem_cons_self⟩
        · exact ih (List.mem_cons_of_mem first hline)

/-- The new text has the lines of the old one, in order and unchanged, and one more. -/
def AddsLine (line old new : Text) : Prop :=
  ∃ above below, lines old = above ++ below ∧ lines new = above ++ line :: below

theorem AddsLine.mem_lines {line old new : Text} (h : AddsLine line old new) :
    line ∈ lines new ∧ ∀ l ∈ lines old, l ∈ lines new := by
  obtain ⟨above, below, hold, hnew⟩ := h
  refine ⟨by simp [hnew], fun l hl => ?_⟩
  rw [hold, List.mem_append] at hl
  rw [hnew, List.mem_append, List.mem_cons]
  rcases hl with habove | hbelow
  · exact .inl habove
  · exact .inr (.inr hbelow)

/-- A line feed and a new line in a line: this adds the new line just if nothing follows on the
old line, or if the new line stands there before as well. -/
theorem addsLine_of_break_iff {above below : List Text} {front rest line added old new : Text}
    (hold : lines old = above ++ (front ++ rest) :: below)
    (hnew : lines new = above ++ front :: (line ++ rest) :: below) :
    AddsLine added old new ↔ added = line ∧ (rest = [] ∨ front = line) := by
  constructor
  · intro h
    obtain ⟨above', below', hold', hnew'⟩ := h
    -- Up to their order, the lines of the new text are those of the old one and the added one.
    have hsame : (above ++ front :: (line ++ rest) :: below).Perm
        (added :: (above ++ (front ++ rest) :: below)) := by
      rw [← hnew, hnew', ← hold, hold']
      exact List.perm_middle
    have hpair : [front, line ++ rest].Perm [added, front ++ rest] := by
      have hfirst := List.perm_append_comm_assoc above [front, line ++ rest] below
      have hsecond := List.perm_append_comm_assoc above [front ++ rest] below
      have hboth := hfirst.symm.trans (hsame.trans (hsecond.cons added))
      exact (List.perm_append_right_iff (above ++ below)).1 hboth
    rcases List.mem_cons.1 (hpair.subset List.mem_cons_self) with rfl | hfront
    · have hline := List.singleton_perm_singleton.1 hpair.cons_inv
      obtain rfl := List.append_cancel_right hline
      exact ⟨rfl, .inr rfl⟩
    · obtain rfl : rest = [] := List.self_eq_append_right.1 (List.mem_singleton.1 hfront)
      rw [List.append_nil, List.append_nil] at hpair
      have hline := (hpair.trans (List.Perm.swap front added [])).cons_inv
      exact ⟨(List.singleton_perm_singleton.1 hline).symm, .inl rfl⟩
  · intro h
    obtain ⟨rfl, rfl | rfl⟩ := h
    · exact ⟨above ++ [front], below, by simp [hold], by simp [hnew]⟩
    · exact ⟨above, (front ++ rest) :: below, hold, hnew⟩

end Text

namespace ImportRule

open Text

/-! ### The line of an import -/

theorem mem_importLine_iff {rule : ImportRule} {semicolon : Bool} {c : Char}
    (hc : c ∈ ['(', ')', '\n']) :
    c ∈ rule.importLine semicolon ↔ c ∈ rule.name ∨ c ∈ rule.module := by
  obtain ⟨word, source, close, hline, hword, hsource, hclose⟩ : ∃ word source close,
      rule.importLine semicolon = word ++ rule.name ++ source ++ rule.module ++ close ∧
        (∀ c ∈ ['(', ')', '\n'], c ∉ word) ∧ (∀ c ∈ ['(', ')', '\n'], c ∉ source) ∧
        ∀ c ∈ ['(', ')', '\n'], c ∉ close := by
    cases semicolon <;> refine ⟨_, _, _, rfl, ?_, ?_, ?_⟩ <;>
      simp only [List.forall_mem_cons, List.not_mem_nil, false_implies, implies_true] <;> decide
  simp only [hline, List.mem_append, hword c hc, hsource c hc, hclose c hc, false_or, or_false]

theorem not_mem_importLine {rule : ImportRule} {c : Char} (hc : c ∈ ['(', ')', '\n'])
    (hname : c ∉ rule.name) (hmodule : c ∉ rule.module) (semicolon : Bool) :
    c ∉ rule.importLine semicolon := by
  rw [mem_importLine_iff hc, not_or]
  exact ⟨hname, hmodule⟩

/-- If the rule adds a new line, the lines of the text stay as they are, and the import that it
writes, with a semicolon or without, comes to stand among them as a line. -/
def AddsLineAt (rule : ImportRule) (text : Text) : Prop :=
  rule.strategy text = some .afterAnchor ∨ rule.strategy text = some .nearUsage →
    ∃ semicolon, AddsLine (rule.importLine semicolon) text (rule.apply text)

theorem isSome_anchor?_of_strategy {rule : ImportRule} {text : Text}
    (h : rule.strategy text = some .afterAnchor) : (rule.anchor? text).isSome = true := by
  unfold strategy at h
  split_ifs at h with hsatisfied husage hextend hanchor hnear
  · cases h
  · exact hanchor
  · cases h

theorem isMatch_usageAnchor_of_strategy {rule : ImportRule} {text : Text}
    (h : rule.strategy text = some .nearUsage) : rule.usageAnchor.isMatch text = true := by
  unfold strategy at h
  split_ifs at h with hsatisfied husage hextend hanchor hnear
  · cases h
  · cases h
  · exact hnear

/-- A line that is put above another is added. -/
theorem addsLine_above {line above : Text} (hline : '\n' ∉ line) (habove : lastLine above = [])
    (rest : Text) : AddsLine line (above ++ rest) (above ++ (line ++ '\n' :: rest)) := by
  obtain ⟨ls, hls⟩ := exists_lines_above above
  refine ⟨ls, lines rest, ?_, ?_⟩
  · rw [hls, habove, List.nil_append]
  · rw [hls, habove, List.nil_append, lines_append hline]

/-- A line that is put behind a place is added just if the place ends its line, or if that is
the same line up to the place. -/
theorem addsLine_behind_iff {line added : Text} (hline : '\n' ∉ line) (front rest : Text) :
    AddsLine added (front ++ rest) (front ++ '\n' :: (line ++ rest)) ↔
      added = line ∧ (Anchor.lineEnd.holds (.between front.reverse rest) = true ∨
        lastLine front = line) := by
  obtain ⟨above, habove⟩ := exists_lines_above front
  obtain ⟨below, hbelow⟩ := exists_lines_below rest
  have hlast := newline_not_mem_lastLine front
  have hold : lines (front ++ rest) =
      above ++ (lastLine front ++ rest.takeWhile (· != '\n')) :: below := by
    rw [habove, hbelow _ hlast]
  have hnew : lines (front ++ '\n' :: (line ++ rest)) =
      above ++ lastLine front :: (line ++ rest.takeWhile (· != '\n')) :: below := by
    rw [habove, lines_append hlast, hbelow _ hline]
  have hend : rest.takeWhile (· != '\n') = [] ↔
      Anchor.lineEnd.holds (.between front.reverse rest) = true := by
    cases rest <;> simp [Anchor.holds, Anchor.nearest]
  rw [addsLine_of_break_iff hold hnew, hend]

/-- The new line above the line of the usage anchor is added to the lines of the text. -/
theorem addsLine_insertNearUsage {rule : ImportRule} (hline : ∀ b, '\n' ∉ rule.importLine b)
    {text : Text} (h : rule.usageAnchor.isMatch text = true) :
    ∃ semicolon, AddsLine (rule.importLine semicolon) text (rule.insertNearUsage text) := by
  obtain ⟨above, rest, semicolon, habove, rfl, hinsert⟩ := insertNearUsage_eq h
  refine ⟨semicolon, ?_⟩
  rw [hinsert]
  exact addsLine_above (hline semicolon) habove rest

/-- The new line behind the anchor is added to the lines of the text just if the anchor ends its
line, or is the new line. -/
theorem addsLine_insertAfterAnchor_iff {rule : ImportRule} (hline : ∀ b, '\n' ∉ rule.importLine b)
    {text : Text} {m : Match} (h : rule.anchor? text = some m) :
    (∃ semicolon, AddsLine (rule.importLine semicolon) text (rule.insertAfterAnchor text)) ↔
      Anchor.lineEnd.holds m.stop = true ∨
        lastLine m.stop.before.reverse = rule.importLine (endsWith ';' m.text) := by
  obtain ⟨front, rest, hstop, rfl, hinsert⟩ := insertAfterAnchor_eq h
  rw [hinsert, hstop, Cursor.before_between, List.reverse_reverse]
  have hadded := fun added => @addsLine_behind_iff _ added (hline (endsWith ';' m.text)) front rest
  constructor
  · intro hsome
    obtain ⟨semicolon, hsome⟩ := hsome
    exact ((hadded _).1 hsome).2
  · intro hplace
    exact ⟨_, (hadded _).2 ⟨rfl, hplace⟩⟩

/-- The rule adds its import as a line of its own just if there is no line feed in the names of
it and, behind an anchor import, that import ends its line or is the new line itself. -/
theorem addsLineAt_iff (rule : ImportRule) (text : Text) :
    rule.AddsLineAt text ↔
      (rule.strategy text = some .afterAnchor ∨ rule.strategy text = some .nearUsage →
        '\n' ∉ rule.name ∧ '\n' ∉ rule.module) ∧
      ∀ m, rule.strategy text = some .afterAnchor → rule.anchor? text = some m →
        Anchor.lineEnd.holds m.stop = true ∨
          lastLine m.stop.before.reverse = rule.importLine (endsWith ';' m.text) := by
  constructor
  · intro hadds
    have hnames : rule.strategy text = some .afterAnchor ∨ rule.strategy text = some .nearUsage →
        '\n' ∉ rule.name ∧ '\n' ∉ rule.module := by
      intro hstrategy
      obtain ⟨semicolon, hadded⟩ := hadds hstrategy
      have hline := newline_not_mem_of_mem_lines hadded.mem_lines.1
      rwa [mem_importLine_iff (by simp), not_or] at hline
    refine ⟨hnames, fun m hstrategy hanchor => ?_⟩
    obtain ⟨hname, hmodule⟩ := hnames (.inl hstrategy)
    have hadded := hadds (.inl hstrategy)
    rw [apply, hstrategy] at hadded
    exact (addsLine_insertAfterAnchor_iff (not_mem_importLine (by simp) hname hmodule) hanchor).1 hadded
  · intro h hstrategy
    obtain ⟨hnames, hplace⟩ := h
    obtain ⟨hname, hmodule⟩ := hnames hstrategy
    cases hstrategy with
    | inl hstrategy =>
        obtain ⟨m, hanchor⟩ := Option.isSome_iff_exists.1 (isSome_anchor?_of_strategy hstrategy)
        rw [apply, hstrategy]
        exact (addsLine_insertAfterAnchor_iff (not_mem_importLine (by simp) hname hmodule) hanchor).2
          (hplace m hstrategy hanchor)
    | inr hstrategy =>
        rw [apply, hstrategy]
        exact addsLine_insertNearUsage (not_mem_importLine (by simp) hname hmodule)
          (isMatch_usageAnchor_of_strategy hstrategy)

/-- The comment behind the anchor import goes down behind the new line. -/
theorem not_addsLineAt_comment_behind_anchor :
    let rule : ImportRule :=
      { id := "", trigger := .always, name := ['b'], module := ['y'], anchorModule := some ['x'] }
    let text := "import { a } from 'x' // a\n".toList
    ¬ rule.AddsLineAt text := by
  intro rule text hadds
  obtain ⟨semicolon, hadded⟩ := hadds (.inl (by decide +kernel))
  have hkept := hadded.mem_lines.2 "import { a } from 'x' // a".toList (by decide +kernel)
  exact absurd hkept (by decide +kernel)

end ImportRule

end CodeMigration
