import CodeMigration.Proofs.CallSites
import CodeMigration.Proofs.References

/-!
# CodeMigration.Proofs.UnwrappedCalls

Calls of the factory that are still to be wrapped, as places in the text. No declaration hides
another, so the rule for calls fires just if there is such a place (`fires_callSite_iff_unwrapped`).

Redirecting references gives the text no new place of that kind, as long as no reference that is
redirected is broken over lines (`unwrapped_oldText`): a reference has no part in a
declaration but among the arguments, and these have to be on one line.
-/

namespace CodeMigration.TypedClient

open Lexeme Pattern Piece

/-! ### All declarations are found -/

/-- A line begins behind the text. -/
def EndsLine (u : Text) : Prop := ∀ c ∈ u.getLast?, c = '\n'

theorem holds_lineStart_iff {u a : Text} :
    Anchor.lineStart.holds (.between u.reverse a) = true ↔ EndsLine u := by
  rcases List.eq_nil_or_concat' u with rfl | ⟨u, c, rfl⟩
  · simp [Anchor.holds, EndsLine]
  · simp [Anchor.holds, Anchor.nearest, EndsLine]

/-- No declaration begins inside another. -/
theorem not_hides_declaration {factory : Text} (hf : Identifier factory) {b w r : Text}
    {k : Captures} (h : (declaration factory).Takes b w r k) :
    ¬ (declaration factory).Hides (.taken b w r k) := by
  intro hhides
  obtain ⟨u, v, hsplit, hu, -, hfits⟩ := hhides
  obtain ⟨-, d, c, e, rfl, he, -⟩ := takes_declaration h
  obtain ⟨hline, d', c', r', hinner⟩ := fits_declaration_iff.1 hfits
  obtain ⟨u, z, rfl⟩ := (List.eq_nil_or_concat' u).resolve_left hu
  obtain rfl : z = '\n' := eq_newline_of_holds (by simp) hline
  -- The line break before the inner declaration is in no part of the outer one.
  have hsemicolon : '\n' ∉ e := by rcases he with rfl | rfl <;> decide
  have hnever := (never_broken hf d c).append (never_broken_of_not_mem hsemicolon)
  refine hnever u ('\n' :: v) r (by simpa using hsplit) (List.cons_ne_nil _ v) ⟨d', c'.text ++ r', ?_⟩
  rw [← hinner]
  simp

/-- The search finds every declaration that begins a line, and replaces it unless it declares
the raw value. -/
theorem exists_mem_matchesIn {settings : TypedClientSettings} (hn : WellNamed settings)
    {text u r : Text} {d : Header} {c : Call settings.factory.toList}
    (htext : text = u ++ (d.text ++ (c.text ++ r))) (hu : EndsLine u)
    (hname : d.name ≠ settings.intermediate.toList) :
    ∃ m ∈ (callSite settings).pattern.matchesIn text, (callSite settings).replace m ≠ m.text ∧
      m.group semicolonGroup ++ m.stop.after = r := by
  have hscan := scans_matchesIn (isPlain_declaration settings.factory.toList)
    (isSolid_declaration settings.factory.toList) text
  have hno : ∀ m ∈ (declaration settings.factory.toList).matchesIn text,
      ¬ (declaration settings.factory.toList).Hides m := by
    intro m hm
    obtain ⟨b, w, r, k, rfl, htakes, -⟩ := hscan.exists_taken m hm
    exact not_hides_declaration hn.factory htakes
  have hfits : (declaration settings.factory.toList).Fits (u.reverse ++ [])
      (d.text ++ (c.text ++ r)) := by
    rw [List.append_nil]
    exact fits_declaration_iff.2 ⟨holds_lineStart_iff.2 hu, d, c, r, rfl⟩
  obtain ⟨w, r', k, hw, htakes, hm⟩ := hscan.exists_mem_of_fits hno htext hfits
  obtain ⟨-, d', c', e, rfl, -, -, -, hgroup, -, -, hsemicolon⟩ := takes_declaration htakes
  rw [List.append_assoc, List.append_assoc] at hw
  obtain ⟨rfl, hcall⟩ := Header.eq_of_append hw
  obtain ⟨rfl, hrest⟩ := Call.eq_of_append hn.factory hcall
  refine ⟨_, hm, fun heq => wrapCall_append_ne hn htakes (by rwa [hgroup]) r' ?_, ?_⟩
  · rw [show wrapCall settings _ = _ from heq, Match.text_taken]
  · rw [hsemicolon, hrest]
    rfl

/-- What the search finds of another name than that of the raw value begins a line. -/
theorem exists_of_mem_matchesIn {settings : TypedClientSettings} {text : Text} {m : Match}
    (hm : m ∈ (callSite settings).pattern.matchesIn text)
    (hname : m.group nameGroup ≠ settings.intermediate.toList) :
    ∃ (u : Text) (d : Header) (c : Call settings.factory.toList),
      text = u ++ (d.text ++ (c.text ++ (m.group semicolonGroup ++ m.stop.after))) ∧ EndsLine u ∧
        d.name ≠ settings.intermediate.toList := by
  obtain ⟨b, w, r, k, rfl, htakes, htext⟩ := (scans_matchesIn
    (isPlain_declaration settings.factory.toList) (isSolid_declaration settings.factory.toList)
    text).exists_taken m hm
  obtain ⟨hline, d, c, e, rfl, -, -, -, hgroup, -, -, hsemicolon⟩ := takes_declaration htakes
  refine ⟨b.reverse, d, c, ?_, ?_, hgroup ▸ hname⟩
  · rw [hsemicolon]
    simpa using htext
  · rw [← List.reverse_reverse b] at hline
    exact holds_lineStart_iff.1 hline

/-- A declaration of another name than that of the raw value calls the factory. -/
def Unwrapped (settings : TypedClientSettings) (text : Text) : Prop :=
  ∃ (u : Text) (d : Header) (c : Call settings.factory.toList) (r : Text),
    text = u ++ (d.text ++ (c.text ++ r)) ∧ EndsLine u ∧ d.name ≠ settings.intermediate.toList

/-- The rule for calls fires where a call is unwrapped. -/
theorem fires_callSite_iff_unwrapped {settings : TypedClientSettings} (hn : WellNamed settings)
    (text : Text) : (callSite settings).toRule.fires text = true ↔ Unwrapped settings text := by
  rw [fires_callSite_iff hn]
  constructor
  · intro ⟨m, hm, hname⟩
    obtain ⟨u, d, c, htext, hu, hname⟩ := exists_of_mem_matchesIn hm hname
    exact ⟨u, d, c, _, htext, hu, hname⟩
  · intro ⟨u, d, c, r, htext, hu, hname⟩
    obtain ⟨m, hm, hreplace, -⟩ := exists_mem_matchesIn hn htext hu hname
    exact ⟨m, hm, fun heq => hreplace (wrapCall_of_eq heq)⟩

/-! ### Redirecting references -/

/-- A text without the character that comes behind a name, up to a stop, begins no such name. -/
theorem never_led_of_not_mem {w : Text} {d e : Char} (hd : d ∉ w) (he : isStop e = true)
    (hne : d ≠ e) : Never (Led Identifier d) (w ++ [e]) := by
  intro u v t huv hv ⟨x, s, r, heq, hx, hs⟩
  obtain ⟨v, z, rfl⟩ := (List.eq_nil_or_concat' v).resolve_left hv
  rw [← List.append_assoc] at huv
  obtain ⟨rfl, hz⟩ := List.append_inj' huv rfl
  obtain rfl : e = z := by simpa using hz
  have hstop : e ∉ x ++ s := by
    rw [List.mem_append, not_or]
    exact ⟨stop_not_mem_of_identifier he hx, stop_not_mem_of_spaces he hs⟩
  obtain ⟨y, rfl, hy⟩ := Text.exists_append_of_not_mem (x := v) (c := e) (z := t) hstop
    (by simpa using heq.symm)
  cases y with
  | nil => exact hne (List.cons.inj hy).1
  | cons z y =>
      obtain ⟨rfl, -⟩ := List.cons.inj hy
      exact hd (by simp)

/-- No stop but the sign of equality is in a header. -/
theorem Header.stop_not_mem {c : Char} (hc : isStop c = true) (hne : c ≠ '=') (d : Header) :
    c ∉ d.text := by
  simp [Header.text, hne, stop_not_mem_of_spaces hc d.lineBlanks_indent.spaces,
    stop_not_mem_of_identifier hc (identifier_of_mem_keywords d.keyword_mem),
    stop_not_mem_of_spaces hc d.spaces1_gap.1, stop_not_mem_of_identifier hc d.identifier_name,
    stop_not_mem_of_spaces hc d.spaces_nameGap]

/-- The text of a call up to its arguments. -/
def Call.opening {callee : Text} (c : Call callee) : Text := c.gap ++ (c.await ++ callee)

theorem Call.text_eq {callee : Text} (c : Call callee) :
    c.text = c.opening ++ '(' :: (c.arguments ++ [')']) := by
  simp [Call.text, Call.opening]

theorem Call.stop_not_mem_opening {c : Char} (hc : isStop c = true) {callee : Text}
    (hcallee : Identifier callee) (call : Call callee) : c ∉ call.opening := by
  have hawait : c ∉ call.await := by
    rcases call.awaitWord_await with h | ⟨s, h, hs⟩
    · simp [h]
    · rw [h, List.mem_append, not_or]
      exact ⟨stop_not_mem_of_identifier hc identifier_await, stop_not_mem_of_spaces hc hs.1⟩
  simp [Call.opening, stop_not_mem_of_spaces hc call.spaces_gap, hawait,
    stop_not_mem_of_identifier hc hcallee]

theorem newline_not_mem_redirected {rule : ReferenceRule} (hr : rule.WellNamed) :
    '\n' ∉ rule.redirected := by
  simp [ReferenceRule.redirected, not_mem_newline_of_identifier hr.target,
    not_mem_newline_of_identifier hr.accessor]

/-- A reference on one line gives way to a redirected one. -/
def RedirectedLine (rule : ReferenceRule) (o n : Text) : Prop := rule.Redirected o n ∧ '\n' ∉ o

/-- Where a line begins in the new text, one begins in the old text. -/
theorem endsLine_oldText {rule : ReferenceRule} {ps : List Piece}
    (hps : All (RedirectedLine rule) ps) (h : EndsLine (newText ps)) : EndsLine (oldText ps) := by
  rcases List.eq_nil_or_concat' ps with rfl | ⟨qs, p, rfl⟩
  · simp [EndsLine]
  cases p with
  | kept c => simpa [EndsLine] using h
  | swapped o n =>
      obtain ⟨⟨-, rfl⟩, -⟩ := hps o n (by simp)
      have hlast : newText (qs ++ [swapped o rule.redirected]) =
          newText qs ++ rule.target ++ '.' :: rule.accessor ++ ['.'] := by
        simp [ReferenceRule.redirected]
      exact absurd (h '.' (by rw [hlast, List.getLast?_concat]; rfl)) (by decide)

section

variable {rule : ReferenceRule} (hr : rule.WellNamed) {ps : List Piece}

include hr

/-- What stands between parentheses in the new text stood between them in the old text. -/
theorem arguments_oldText (hps : All (RedirectedLine rule) ps)
    (h : ∀ c ∈ newText ps, c ∉ ['(', ')', '\n']) : ∀ c ∈ oldText ps, c ∉ ['(', ')', '\n'] := by
  intro c hc
  obtain ⟨p, hp, hmem⟩ := List.mem_flatMap.1 hc
  cases p with
  | kept d => exact h c (List.mem_flatMap.2 ⟨.kept d, hp, hmem⟩)
  | swapped o n =>
      obtain ⟨⟨⟨x, ho⟩, -⟩, hline⟩ := hps o n hp
      simp only [List.mem_cons, List.not_mem_nil, or_false, not_or]
      refine ⟨?_, ?_, ?_⟩ <;> rintro rfl
      · exact ho.stop_not_mem hr (by decide) (by decide) hmem
      · exact ho.stop_not_mem hr (by decide) (by decide) hmem
      · exact hline hmem

/-- Redirecting references that are on one line brings no call on one. -/
theorem unwrapped_oldText {settings : TypedClientSettings} (hf : Identifier settings.factory.toList)
    (hps : All (RedirectedLine rule) ps) (h : Unwrapped settings (newText ps)) :
    Unwrapped settings (oldText ps) := by
  obtain ⟨u, d, c, r, htext, hline, hname⟩ := h
  rcases newText_eq_append htext with ⟨qs, rs, rfl, rfl, hrs⟩ | ⟨qs, o, v, w, rs, rfl, hv, rfl⟩
  · -- The declaration stays up to its arguments, for it has no dot in it.
    have hdot : '.' ∉ d.text ++ c.opening := by
      rw [List.mem_append, not_or]
      exact ⟨d.stop_not_mem (by decide) (by decide), c.stop_not_mem_opening (by decide) hf⟩
    have hnever := never_led_of_not_mem hdot (e := '(') (by decide) (by decide)
    obtain ⟨ts, rfl, hts⟩ := eq_kept_append_of_new (w := d.text ++ c.opening ++ ['('])
      (r := c.arguments ++ ')' :: r) (by rw [hrs, c.text_eq]; simp) fun o n hmem x y hxy hy hprefix => by
        obtain ⟨⟨-, rfl⟩, -⟩ := hps.right o n hmem
        obtain ⟨t, ht⟩ := hprefix
        refine hnever x y (c.arguments ++ ')' :: r) hxy hy ?_
        rw [← ht]
        exact (ReferenceRule.isReference_redirected hr).led t
    have hps' : All (RedirectedLine rule) ts := hps.right.right
    obtain ⟨as, zs, rfl, has, -⟩ := exists_kept_of_new hts fun o n hmem => by
      obtain ⟨⟨-, rfl⟩, -⟩ := hps' o n hmem
      exact (ReferenceRule.isReference_redirected hr).stop_not_mem hr (by decide) (by decide)
    let call : Call settings.factory.toList :=
      { c with
        arguments := oldText as
        arguments_free := arguments_oldText hr hps'.left (has ▸ c.arguments_free) }
    refine ⟨oldText qs, d, call, oldText zs, ?_, endsLine_oldText hps.left hline, hname⟩
    rw [call.text_eq]
    simp [call, Call.opening]
  · -- The line would begin inside a new part.
    obtain ⟨x, y, rfl⟩ := (List.eq_nil_or_concat' v).resolve_left hv
    obtain ⟨⟨-, hnew⟩, -⟩ := hps o (x ++ [y] ++ w) (by simp)
    obtain rfl : y = '\n' := hline y (by simp)
    exact absurd (hnew ▸ (by simp : '\n' ∈ x ++ ['\n'] ++ w)) (newline_not_mem_redirected hr)

end

end CodeMigration.TypedClient
