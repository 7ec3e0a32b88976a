import CodeMigration.Proofs.Lexemes
import CodeMigration.Proofs.Passes
import CodeMigration.Rule.Import
import Mathlib.Data.List.Basic
import Mathlib.Data.List.TakeWhile

/-!
# CodeMigration.Proofs.Imports

When a rule that makes sure of an import fires: where its trigger is met and it has a way
to add the import (`ImportRule.fires_iff`). Each way changes the text. A new line makes it
longer, and so does a name at the end of a list; a list without names gets one.

Where the rule cuts the text it does so at ends of matches and of groups, and these lie in
the text: the parts before, between and after them make it up (`Pattern.Takes.within`).
-/

namespace CodeMigration

namespace Pattern

/-- The ends of a group lie in the text. -/
theorem Takes.within {p : Pattern} {b w a : Text} {k : Captures} (h : p.Takes b w a k) :
    ∀ i s e, (i, s, e) ∈ k → ∃ u d v, s = .between u (d ++ v) ∧ e = .between (d.reverse ++ u) v ∧
      u.reverse ++ d ++ v = b.reverse ++ w ++ a := by
  induction h with
  | seq _ _ ihp ihq =>
      intro i s e hmem
      rcases List.mem_append.1 hmem with hmem | hmem
      · simpa using ihq i s e hmem
      · simpa using ihp i s e hmem
  | altLeft _ ih => exact ih
  | altRight _ ih => exact ih
  | @group i p b w a k _ ih =>
      intro j s e hmem
      rcases List.mem_cons.1 hmem with heq | hmem
      · cases heq
        exact ⟨b, w, a, rfl, rfl, rfl⟩
      · exact ih j s e hmem
  | starCons _ _ _ ihp ihstar =>
      intro i s e hmem
      rcases List.mem_append.1 hmem with hmem | hmem
      · simpa using ihstar i s e hmem
      · simpa using ihp i s e hmem
  | _ => simp

theorem eq_of_findFrom? {p : Pattern} (hp : p.isPlain = true) {b a : Text} {m : Match}
    (h : p.findFrom? (.between b a) = some m) :
    ∃ b' w r k, m = .taken b' w r k ∧ p.Takes b' w r k ∧ b.reverse ++ a = b'.reverse ++ w ++ r := by
  obtain ⟨u, v, rfl, hm, -⟩ := exists_of_findFrom? hp h
  obtain ⟨w, r, k, rfl, htakes, rfl⟩ := matchAt?_eq_some hp hm
  exact ⟨_, w, r, k, rfl, htakes, by simp⟩

theorem start_of_matchAt? {p : Pattern} {place : Cursor} {m : Match}
    (h : p.matchAt? place = some m) : m.start = place := by
  unfold matchAt? at h
  split at h
  · cases h
  · cases h
    rfl

/-- A match begins in the text, whatever the pattern. -/
theorem text_start_of_findFrom? {p : Pattern} {place : Cursor} {m : Match}
    (h : p.findFrom? place = some m) : m.start.text = place.text := by
  fun_induction findFrom? p place with
  | case1 place m' hm =>
      cases h
      rw [start_of_matchAt? hm]
  | case2 => cases h
  | case3 place _ next hnext ih => rw [ih h, Cursor.text_next? hnext]

end Pattern

/-- What stands above a line ends where a line ends. -/
theorem Text.lastLine_dropWhile (before : Text) :
    lastLine (before.dropWhile (· != '\n')).reverse = [] := by
  rw [lastLine, List.reverse_reverse, List.reverse_eq_nil_iff]
  induction before with
  | nil => rfl
  | cons c before ih =>
      by_cases hc : c = '\n'
      · simp [hc]
      · simpa [hc] using ih

namespace ImportRule

open Pattern

theorem isPlain_importsFrom (module : Text) : (importsFrom module).isPlain = true := by
  simp [importsFrom, seqs, Pattern.isPlain, Pattern.optional, Lexeme.quoted, Lexeme.identifier,
    Lexeme.blanks, Lexeme.quote, many, literal, boundary]

theorem isSolid_importsFrom (module : Text) : (importsFrom module).isSolid = true := by
  simp [importsFrom, seqs, Pattern.isSolid, literal]

theorem isPlain_anchorOn (module : Text) : (anchorOn module).isPlain = true := by
  simp [anchorOn, seqs, Pattern.isPlain, Pattern.optional, Lexeme.quoted, Lexeme.blanks, Lexeme.quote,
    Lexeme.lineStart, Lexeme.lineBlanks, few, many, literal, boundary]

/-- The list that is extended lies in the text. -/
theorem extendable?_eq_some {rule : ImportRule} {text : Text} {s e : Cursor}
    (h : rule.extendable? text = some (s, e)) :
    ∃ u body v, s = .between u (body ++ v) ∧ e = .between (body.reverse ++ u) v ∧
      text = u.reverse ++ body ++ v := by
  obtain ⟨m, hm, hspan⟩ := List.exists_of_findSome?_eq_some h
  have hmem := (List.mem_filter.1 hm).1
  obtain ⟨b, w, r, k, rfl, htakes, htext⟩ := (scans_matchesIn (isPlain_importsFrom rule.module)
    (isSolid_importsFrom rule.module) text).exists_taken m hmem
  obtain ⟨k₁, k₂, hk, -⟩ := List.lookup_eq_some_iff.1 (show k.lookup namesGroup = some (s, e) from hspan)
  have hcaptured : (namesGroup, s, e) ∈ k := by simp [hk]
  obtain ⟨u, d, v, hs, he, heq⟩ := htakes.within _ _ _ hcaptured
  refine ⟨u, d, v, hs, he, ?_⟩
  rw [heq, ← htext]
  rfl

/-! ### A name more in a list -/

/-- An import list without its last comma and the space at its end. -/
def listHead (body : Text) : Text :=
  if Text.endsWith ',' (Text.trimEnd body) then (Text.trimEnd body).dropLast
  else Text.trimEnd body

/-- The comma at the end of an import list. -/
def listComma (body : Text) : Text := if Text.endsWith ',' (Text.trimEnd body) then [','] else []

theorem extendList_eq (name body : Text) :
    extendList name body =
      if Text.isBlank (listHead body) then ' ' :: name ++ [' ']
      else if body.contains '\n' then
        listHead body ++ ",\n".toList ++ Text.leadingSpace (Text.lastLine (listHead body)) ++ name ++
          listComma body ++ Text.trailingSpace body
      else listHead body ++ ", ".toList ++ name ++ listComma body ++ Text.trailingSpace body := rfl

theorem listHead_append (body : Text) :
    listHead body ++ listComma body ++ Text.trailingSpace body = body := by
  have htrimmed : listHead body ++ listComma body = Text.trimEnd body := by
    unfold listHead listComma
    split
    · next h =>
      simp only [Text.endsWith, beq_iff_eq] at h
      exact List.dropLast_append_getLast? ',' h
    · rw [List.append_nil]
  rw [htrimmed, Text.trimEnd_append_trailingSpace]

/-- A list changes when a name is added that is not made of white space and commas. -/
theorem extendList_ne {name : Text} (hname : ∃ c ∈ name, Unicode.isSpace c = false ∧ c ≠ ',')
    (body : Text) : extendList name body ≠ body := by
  intro h
  obtain ⟨c, hc, hspace, hcomma⟩ := hname
  have hbody := listHead_append body
  rw [extendList_eq] at h
  split at h
  · next hblank =>
    have hmem : c ∈ listHead body ++ listComma body ++ Text.trailingSpace body := by
      rw [hbody, ← h]
      simp [hc]
    rcases List.mem_append.1 hmem with hmem | hmem
    · rcases List.mem_append.1 hmem with hmem | hmem
      · rw [List.all_eq_true.1 hblank c hmem] at hspace
        cases hspace
      · unfold listComma at hmem
        split at hmem
        · exact hcomma (List.mem_singleton.1 hmem)
        · cases hmem
    · rw [Text.trailingSpace, List.mem_reverse] at hmem
      rw [List.mem_takeWhile_imp hmem] at hspace
      cases hspace
  · split at h
    all_goals
      have hlength := congrArg List.length (h.trans hbody.symm)
      simp at hlength
      omega

/-! ### Each way of adding an import changes the text -/

theorem extendExisting_ne {rule : ImportRule}
    (hname : ∃ c ∈ rule.name, Unicode.isSpace c = false ∧ c ≠ ',') {text : Text}
    (h : (rule.extendable? text).isSome = true) : rule.extendExisting text ≠ text := by
  obtain ⟨⟨s, e⟩, hspan⟩ := Option.isSome_iff_exists.1 h
  obtain ⟨u, body, v, rfl, rfl, rfl⟩ := extendable?_eq_some hspan
  rw [extendExisting, hspan]
  simp only [Cursor.before_between, Cursor.after_between, Cursor.textUntil_between]
  intro heq
  exact extendList_ne hname body (List.append_cancel_left (List.append_cancel_right heq))

/-- The new line behind the anchor import goes where the anchor ends. -/
theorem insertAfterAnchor_eq {rule : ImportRule} {text : Text} {m : Match}
    (h : rule.anchor? text = some m) :
    ∃ front rest, m.stop = .between front.reverse rest ∧ text = front ++ rest ∧
      rule.insertAfterAnchor text =
        front ++ '\n' :: (rule.importLine (Text.endsWith ';' m.text) ++ rest) := by
  obtain ⟨module, -, hfind⟩ := Option.bind_eq_some_iff.1 h
  obtain ⟨b, w, r, k, rfl, -, htext⟩ := eq_of_findFrom? (isPlain_anchorOn module) hfind
  refine ⟨b.reverse ++ w, r, by simp, htext, ?_⟩
  rw [insertAfterAnchor, h]
  simp

/-- The new line above the usage anchor goes where the line of the anchor begins. -/
theorem insertNearUsage_eq {rule : ImportRule} {text : Text}
    (h : rule.usageAnchor.isMatch text = true) :
    ∃ above rest semicolon, Text.lastLine above = [] ∧ text = above ++ rest ∧
      rule.insertNearUsage text = above ++ (rule.importLine semicolon ++ '\n' :: rest) := by
  obtain ⟨m, hm⟩ := Option.isSome_iff_exists.1 h
  have htext : m.start.text = text := text_start_of_findFrom? hm
  have hbefore : m.start.before.reverse = (m.start.before.dropWhile (· != '\n')).reverse ++
      (m.start.before.takeWhile (· != '\n')).reverse := by
    rw [← List.reverse_append, List.takeWhile_append_dropWhile]
  rw [Cursor.text, hbefore, List.append_assoc] at htext
  rw [insertNearUsage, hm]
  dsimp only
  rw [List.append_assoc, List.append_assoc, List.cons_append]
  exact ⟨_, _, _, Text.lastLine_dropWhile m.start.before, htext.symm, rfl⟩

theorem insertAfterAnchor_ne {rule : ImportRule} {text : Text}
    (h : (rule.anchor? text).isSome = true) : rule.insertAfterAnchor text ≠ text := by
  obtain ⟨m, hm⟩ := Option.isSome_iff_exists.1 h
  obtain ⟨front, rest, -, htext, hinsert⟩ := insertAfterAnchor_eq hm
  intro heq
  have hlength := congrArg List.length (hinsert.symm.trans (heq.trans htext))
  simp at hlength
  omega

theorem insertNearUsage_ne {rule : ImportRule} {text : Text}
    (h : rule.usageAnchor.isMatch text = true) : rule.insertNearUsage text ≠ text := by
  obtain ⟨above, rest, semicolon, -, htext, hinsert⟩ := insertNearUsage_eq h
  intro heq
  have hlength := congrArg List.length (hinsert.symm.trans (heq.trans htext))
  simp at hlength
  omega

/-- The rule fires where its trigger is met and it has a way to add the import. -/
theorem fires_iff_strategy (rule : ImportRule)
    (hname : ∃ c ∈ rule.name, Unicode.isSpace c = false ∧ c ≠ ',') (text : Text) :
    rule.toRule.fires text = true ↔
      rule.trigger.isMet text = true ∧ (rule.strategy text).isSome = true := by
  rw [Rule.fires_iff]
  refine and_congr_right fun _ => ?_
  show rule.apply text ≠ text ↔ _
  unfold apply strategy
  split_ifs with hsatisfied husage hextend hanchor hnear
  · simp
  · simp
  · simpa using extendExisting_ne hname hextend
  · simpa using insertAfterAnchor_ne hanchor
  · simpa using insertNearUsage_ne hnear
  · simp

end ImportRule

end CodeMigration
