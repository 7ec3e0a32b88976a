import CodeMigration.Proofs.AddedLines
import CodeMigration.Proofs.ExtendedImports
import CodeMigration.Proofs.UnwrappedCalls

/-!
# CodeMigration.Proofs.ImportedWrappers

A rule that makes sure of an import leaves no call to wrap that was not there before it
(`unwrapped_of_run_import`). What it puts in begins no declaration, and a declaration that is
there does not go on over it up to its arguments. Among the arguments of a call it can come to
stand, but then there were arguments before.

The one list that this is not true of is a blank one over several lines: arguments have to be on
one line, and the list comes to be on one with the name.
-/

namespace CodeMigration.TypedClient

open Lexeme Pattern Text

/-! ### Text that is put in -/

/-- The text does not go on like a declaration. -/
def Undeclared (v : Text) : Prop :=
  ∃ s c r, v = s ++ c :: r ∧ Spaces s ∧ Unicode.isSpace c = false ∧ ∀ q ∈ keywords, q.head? ≠ some c

/-- With the new text in place of the old one behind the front, the calls of a text are those that
it had. -/
structure Inert (front old new : Text) : Prop where
  /-- A declaration does not reach its arguments in the new text. -/
  apart : ∃ s c t, new = s ++ c :: t ∧ '(' ∉ s ∧ c ∈ ['\x7b', ',']
  /-- Arguments do not end in the new text. -/
  unclosed : ')' ∉ new
  /-- The old text can stand among arguments. -/
  free : ∀ c ∈ old, c ∉ ['(', ')', '\n']
  /-- Where a line begins in the new text, it begins with no declaration, or with what follows
  the old text as the first of a line. -/
  line : ∀ u v, new = u ++ '\n' :: v → Undeclared v ∨ v = [] ∧ EndsLine (front ++ old)

section

variable {settings : TypedClientSettings} (hf : Identifier settings.factory.toList)

/-- A line that begins behind a text that is not empty begins behind every text with this end. -/
theorem EndsLine.of_append {u v : Text} (h : EndsLine (u ++ v)) (hv : v ≠ []) (w : Text) :
    EndsLine (w ++ v) := by
  obtain ⟨v, c, rfl⟩ := (List.eq_nil_or_concat' v).resolve_left hv
  simpa [EndsLine, ← List.append_assoc] using h

theorem EndsLine.exists_eq {u v : Text} (h : EndsLine (u ++ v)) (hv : v ≠ []) :
    ∃ w, v = w ++ ['\n'] := by
  obtain ⟨v, c, rfl⟩ := (List.eq_nil_or_concat' v).resolve_left hv
  exact ⟨v, by rw [h c (by simp [← List.append_assoc])]⟩

theorem endsLine_of_lastLine {u : Text} (h : lastLine u = []) : EndsLine u := by
  intro x hx
  obtain ⟨w, rfl⟩ := List.getLast?_eq_some_iff.1 hx
  by_contra hne
  simp [lastLine, hne] at h

theorem Inert.ne_nil {front old new : Text} (h : Inert front old new) : new ≠ [] := by
  obtain ⟨s, c, t, rfl, -⟩ := h.apart
  simp

theorem Inert.endsLine {front old x : Text} (h : Inert front old (x ++ ['\n'])) :
    EndsLine (front ++ old) := by
  rcases h.line x [] rfl with ⟨s, c, r, heq, -⟩ | ⟨-, hline⟩
  · simp at heq
  · exact hline

include hf

/-- A call that the new text is behind or among is one with the old text in its place. -/
theorem exists_call_of_inert {front old new z rest r : Text} (h : Inert front old new)
    {d : Header} {c : Call settings.factory.toList}
    (heq : d.text ++ (c.text ++ r) = z ++ (new ++ rest)) :
    ∃ (c' : Call settings.factory.toList) (r' : Text),
      z ++ (old ++ rest) = d.text ++ (c'.text ++ r') := by
  obtain ⟨s, e, t, rfl, hs, he⟩ := h.apart
  obtain ⟨hstop, hequal, hparen⟩ : isStop e = true ∧ e ≠ '=' ∧ e ≠ '(' := by
    rcases List.mem_pair.1 he with rfl | rfl <;> decide
  -- The parenthesis before the arguments stands before the new text.
  have hstart : e ∉ d.text ++ c.opening ++ ['('] := by
    simp [d.stop_not_mem hstop hequal, c.stop_not_mem_opening hstop hf, hparen]
  obtain ⟨x, hx, -⟩ := Text.exists_append_of_not_mem hstart
    (r := c.arguments ++ ')' :: r) (x := z ++ s) (z := t ++ rest) (by simpa [c.text_eq] using heq)
  obtain ⟨y, rfl⟩ := Text.exists_of_append_eq hs (w := d.text ++ c.opening) (r := x) (by simpa using hx)
  have hbehind : c.arguments ++ ')' :: r = y ++ (s ++ e :: t ++ rest) := by
    simpa [c.text_eq] using heq
  by_cases hclosed : ')' ∈ y
  · -- The arguments end before the new text.
    obtain ⟨a, y, rfl, ha⟩ := List.eq_append_cons_of_mem hclosed
    have hcut : c.arguments ++ ')' :: r = a ++ ')' :: (y ++ (s ++ e :: t ++ rest)) := by
      simpa using hbehind
    have harguments : ')' ∉ c.arguments := fun hmem => c.arguments_free _ hmem (by simp)
    obtain ⟨rfl, -⟩ := Text.eq_of_append_cons harguments ha hcut
    exact ⟨c, y ++ (old ++ rest), by simp [c.text_eq]⟩
  · -- They go on behind it.
    have hopen : ')' ∉ y ++ (s ++ e :: t) := List.not_mem_append hclosed h.unclosed
    obtain ⟨a, ha, rfl⟩ := Text.exists_append_of_not_mem hopen (r := rest)
      (x := c.arguments) (z := r) (by simpa using hbehind.symm)
    have hfree : ∀ x ∈ y ++ (old ++ a), x ∉ ['(', ')', '\n'] := by
      intro x hmem
      rcases List.mem_append.1 hmem with hy | hmem
      · exact c.arguments_free x (by simp [ha, hy])
      rcases List.mem_append.1 hmem with hold | hlast
      · exact h.free x hold
      · exact c.arguments_free x (by simp [ha, hlast])
    exact ⟨{ c with arguments := y ++ (old ++ a), arguments_free := hfree }, r,
      by simp [Call.text, Call.opening]⟩

/-- The calls to wrap were there with the old text as well. -/
theorem unwrapped_of_inert {front old new : Text} (h : Inert front old new) (rest : Text)
    (hcall : Unwrapped settings (front ++ (new ++ rest))) :
    Unwrapped settings (front ++ (old ++ rest)) := by
  obtain ⟨u, d, c, r, htext, hline, hname⟩ := hcall
  rcases List.append_eq_append_iff.1 htext with ⟨v, rfl, hnew⟩ | ⟨z, rfl, hcall⟩
  · rcases List.append_eq_append_iff.1 hnew with ⟨w, rfl, rfl⟩ | ⟨w, rfl, hcall⟩
    · -- The declaration begins behind the new text.
      refine ⟨front ++ old ++ w, d, c, r, by simp, ?_, hname⟩
      by_cases hw : w = []
      · rw [hw, List.append_nil] at hline ⊢
        obtain ⟨x, rfl⟩ := hline.exists_eq h.ne_nil
        exact h.endsLine
      · rw [← List.append_assoc] at hline
        exact hline.of_append hw _
    · by_cases hv : v = []
      · rw [hv, List.append_nil] at hline
        obtain ⟨c', r', hold⟩ := exists_call_of_inert (z := []) hf h (by simpa [hv] using hcall)
        exact ⟨front, d, c', r', by simp [← hold], hline, hname⟩
      · -- The declaration would begin in the new text.
        obtain ⟨x, rfl⟩ := hline.exists_eq hv
        rcases h.line x w (by simp) with ⟨s, e, t, rfl, hs, he, hkeyword⟩ | ⟨rfl, hline⟩
        · exact absurd hcall.symm (by simpa using d.text_ne_of_not_keyword hs he hkeyword)
        · exact ⟨front ++ old, d, c, r, by simp [hcall], hline, hname⟩
  · obtain ⟨c', r', hold⟩ := exists_call_of_inert hf h hcall
    exact ⟨u, d, c', r', by simp [← hold], hline, hname⟩

end

/-! ### The import -/

/-- The words of a rule for an import have no part of a call in them, and its name does not begin
like a declaration. -/
structure Uncalled (rule : ImportRule) : Prop where
  /-- No declaration begins with the name. -/
  undeclared_name : Undeclared rule.name
  /-- The name has no part of a call in it. -/
  name_free : ∀ c ∈ ['(', ')', '\n'], c ∉ rule.name
  /-- The module has no part of a call in it. -/
  module_free : ∀ c ∈ ['(', ')', '\n'], c ∉ rule.module

theorem Undeclared.behind_spaces {s v : Text} (hs : Spaces s) (hv : Undeclared v) :
    Undeclared (s ++ v) := by
  obtain ⟨t, c, r, rfl, ht, hc⟩ := hv
  exact ⟨s ++ t, c, r, by simp, spaces_append.2 ⟨hs, ht⟩, hc⟩

/-- A text behind which no line begins is one that is not split. -/
theorem eq_nil_of_split {line u v : Text} (hline : '\n' ∉ line) (h : line ++ ['\n'] = u ++ '\n' :: v) :
    v = [] := by
  have hsame : line ++ '\n' :: [] = u ++ '\n' :: v := h
  obtain ⟨t, rfl, ht⟩ := Text.exists_append_of_not_mem hline hsame
  cases t with
  | nil => exact (List.cons.inj ht).2.symm
  | cons c t => simp at ht

/-- No part of a call is in a blank list on one line. -/
theorem call_free_of_isBlank {names : Text} (h : isBlank (ImportRule.listHead names) = true)
    (hflat : '\n' ∉ names) : ∀ c ∈ names, c ∉ ['(', ')', '\n'] := by
  intro c hc hcall
  have hblanks := ImportRule.forall_mem_of_isBlank h c hc
  simp only [List.mem_cons, List.not_mem_nil, or_false] at hcall
  rcases hcall with rfl | rfl | rfl
  · exact absurd hblanks (by decide)
  · exact absurd hblanks (by decide)
  · exact hflat hc

section

variable {rule : ImportRule} (hr : Uncalled rule)

include hr

theorem Uncalled.not_mem_importLine {c : Char} (hc : c ∈ ['(', ')', '\n']) (semicolon : Bool) :
    c ∉ rule.importLine semicolon :=
  ImportRule.not_mem_importLine hc (hr.name_free c hc) (hr.module_free c hc) semicolon

/-- A new line behind a place in the text. -/
theorem inert_lineBehind (front : Text) (semicolon : Bool) :
    Inert front [] ('\n' :: rule.importLine semicolon) where
  apart := ⟨"\nimport ".toList, '\x7b', _, rfl, by decide, by decide⟩
  unclosed := by
    simpa using hr.not_mem_importLine (by simp) semicolon
  free := by simp
  line := by
    intro u v h
    cases u with
    | nil =>
        obtain ⟨-, rfl⟩ := List.cons.inj h
        exact .inl ⟨[], 'i', _, rfl, by simp, by decide, by decide⟩
    | cons c u =>
        obtain ⟨-, hline⟩ := List.cons.inj h
        exact absurd (by simp [hline]) (hr.not_mem_importLine (c := '\n') (by simp) semicolon)

/-- A new line above another. -/
theorem inert_lineAbove {above : Text} (habove : EndsLine above) (semicolon : Bool) :
    Inert above [] (rule.importLine semicolon ++ ['\n']) where
  apart := ⟨"import ".toList, '\x7b', _, rfl, by decide, by decide⟩
  unclosed := by
    simpa using hr.not_mem_importLine (by simp) semicolon
  free := by simp
  line := by
    intro u v h
    exact .inr ⟨eq_nil_of_split (hr.not_mem_importLine (by simp) semicolon) h, by simpa using habove⟩

/-- The name as a further entry of a list. -/
theorem inert_entry (front : Text) {gap : Text} (hgap : Spaces gap) :
    Inert front [] (',' :: (gap ++ rule.name)) where
  apart := ⟨[], ',', _, rfl, by simp, by decide⟩
  unclosed := by
    have hspaces : ')' ∉ gap := stop_not_mem_of_spaces (by decide) hgap
    simpa [hspaces] using hr.name_free ')' (by simp)
  free := by simp
  line := by
    intro u v h
    have hsplit : (',' :: gap) ++ rule.name = u ++ '\n' :: v := h
    obtain ⟨t, ht⟩ := Text.exists_of_append_eq (hr.name_free '\n' (by simp)) hsplit
    obtain rfl : t ++ rule.name = v := by simpa [ht] using hsplit
    cases u with
    | nil => exact absurd (List.cons.inj ht).1 (by decide)
    | cons c u =>
        obtain ⟨-, rfl⟩ := List.cons.inj ht
        exact .inl (hr.undeclared_name.behind_spaces (spaces_cons.1 (spaces_append.1 hgap).2).2)

/-- The name as the only entry of a list. -/
theorem inert_list (front : Text) {names : Text} (hnames : ∀ c ∈ names, c ∉ ['(', ')', '\n']) :
    Inert front ('\x7b' :: names) ('\x7b' :: ' ' :: rule.name ++ [' ']) where
  apart := ⟨[], '\x7b', _, rfl, by simp, by decide⟩
  unclosed := by
    simpa using hr.name_free ')' (by simp)
  free := List.forall_mem_cons.2 ⟨by decide, hnames⟩
  line := by
    intro u v h
    have hmem : '\n' ∈ '\x7b' :: ' ' :: rule.name ++ [' '] := by simp [h]
    exact absurd hmem (by simpa using hr.name_free '\n' (by simp))

/-- The list that is extended has entries, or is on one line. -/
def ListedOrFlat (rule : ImportRule) (text : Text) : Prop :=
  ∀ s e, rule.extendable? text = some (s, e) → '\n' ∈ s.textUntil e →
    ImportRule.entries (s.textUntil e) ≠ []

theorem unwrapped_of_extendExisting {settings : TypedClientSettings}
    (hf : Identifier settings.factory.toList) {text : Text} (hlist : ListedOrFlat rule text)
    {s e : Cursor} (hspan : rule.extendable? text = some (s, e))
    (h : Unwrapped settings (rule.extendExisting text)) : Unwrapped settings text := by
  obtain ⟨front, names, rest, hends, -, rfl, hextended⟩ := ImportRule.extendExisting_eq hspan
  obtain ⟨rfl, rfl⟩ := Prod.mk.inj hends
  rw [hextended] at h
  by_cases hblank : isBlank (ImportRule.listHead names) = true
  · have hnone : ImportRule.entries names = [] := by
      rw [← ImportRule.entries_listHead, ImportRule.entries_spaces (List.all_eq_true.1 hblank)]
    have hflat : '\n' ∉ names := fun hmem =>
      hlist _ _ hspan (by simpa using hmem) (by simpa using hnone)
    rw [ImportRule.extendList_eq, if_pos hblank] at h
    have hold := unwrapped_of_inert hf (inert_list hr front
      (call_free_of_isBlank hblank hflat)) ('\x7d' :: rest)
      (by simpa [ImportRule.braced] using h)
    simpa [ImportRule.braced] using hold
  · obtain ⟨gap, hgap, hextend⟩ :=
      ImportRule.exists_extendList rule.name (Bool.eq_false_iff.2 hblank)
    let close := ImportRule.listComma names ++ trailingSpace names
    rw [hextend] at h
    have hold := unwrapped_of_inert hf
      (inert_entry hr (front ++ '\x7b' :: ImportRule.listHead names) hgap) (close ++ '\x7d' :: rest)
      (by simpa [ImportRule.braced, close] using h)
    have hnames : front ++ '\x7b' :: ImportRule.listHead names ++ ([] ++ (close ++ '\x7d' :: rest)) =
        ImportRule.braced front names rest := by
      conv_rhs => rw [← ImportRule.listHead_append names]
      simp [ImportRule.braced, close]
    rwa [hnames] at hold

/-- Adding the import leaves no call to wrap that was not there before. -/
theorem unwrapped_of_run_import {settings : TypedClientSettings}
    (hf : Identifier settings.factory.toList) {text : Text} (hlist : ListedOrFlat rule text)
    (h : Unwrapped settings (rule.toRule.run text)) : Unwrapped settings text := by
  rcases Rule.run_cases rule.toRule text with hrun | hrun
  · rwa [hrun] at h
  · rw [hrun] at h
    change Unwrapped settings (rule.apply text) at h
    unfold ImportRule.apply ImportRule.strategy at h
    split_ifs at h with hsatisfied husage hextend hanchor hnear
    · exact h
    · exact h
    · obtain ⟨⟨s, e⟩, hspan⟩ := Option.isSome_iff_exists.1 hextend
      exact unwrapped_of_extendExisting hr hf hlist hspan h
    · obtain ⟨m, hm⟩ := Option.isSome_iff_exists.1 hanchor
      obtain ⟨front, rest, -, rfl, hinsert⟩ := ImportRule.insertAfterAnchor_eq hm
      dsimp only at h
      rw [hinsert] at h
      exact unwrapped_of_inert hf (inert_lineBehind hr front _) rest h
    · obtain ⟨above, rest, semicolon, habove, rfl, hinsert⟩ := ImportRule.insertNearUsage_eq hnear
      dsimp only at h
      rw [hinsert] at h
      exact unwrapped_of_inert hf (inert_lineAbove hr (endsLine_of_lastLine habove) semicolon)
        rest (by simpa using h)
    · exact h

end

end CodeMigration.TypedClient
