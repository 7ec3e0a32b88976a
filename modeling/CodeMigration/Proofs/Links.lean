import CodeMigration.Proofs.LinkValues
import CodeMigration.Proofs.Passes

/-!
# CodeMigration.Proofs.Links

Links, and what is left of them after a pass of the rule for one form of value. A link is
its opening up to the value, the value, the bracket that ends the opening, a text, and
the first closing tag after it. A pass replaces opening, bracket and closing tag and
keeps all other characters; value and text may themselves hold parts of links, so the
pieces of one link can lie inside another.

Whether a link begins at a character that stays is the same before and after a pass
(`beginsLink_newText`). So

* a link that is left began inside a match (`occurs_apply_iff_hides`);
* links of the other form are neither made nor destroyed (`occurs_apply_iff_of_ne`).
-/

namespace CodeMigration.PrefetchLink

open Pattern Piece

/-! ### The parts of a link -/

section Parts

variable (names : PrefetchLinkSettings)

/-- The opening of a link up to its value. -/
def Opening (h : Text) : Prop :=
  ∃ s t u, h = '<' :: names.outer.toList ++ s ++ names.linkAttribute.toList ++ t ++ '=' :: u ∧
    Spaces1 s ∧ Spaces t ∧ Spaces u

/-- The closing tag of a link. -/
def Closing (c : Text) : Prop := ∃ s, c = '<' :: '/' :: names.outer.toList ++ s ++ ['>'] ∧ Spaces s

/-- The text holds a closing tag. -/
def HasClosing (a : Text) : Prop := ∃ t c r, a = t ++ c ++ r ∧ Closing names c

/-- A closing tag begins the text. -/
def BeginsClosing (a : Text) : Prop := ∃ c r, a = c ++ r ∧ Closing names c

/-- A link with a value of the form begins the text. -/
def BeginsLink (F : Form) (a : Text) : Prop :=
  ∃ h v s r, a = h ++ v ++ s ++ '>' :: r ∧ Opening names h ∧ F.IsValue v ∧ Spaces s ∧
    HasClosing names r

/-- The opening of the nested elements up to the value. -/
def nestedOpening : Text :=
  '<' :: names.outer.toList ++ ' ' :: names.outerFlag.toList ++ '>' :: '<' :: names.inner.toList ++
    ' ' :: names.linkAttribute.toList ++ ['=']

/-- The closing tags of the nested elements. -/
def nestedClosing : Text :=
  '<' :: '/' :: names.inner.toList ++ '>' :: '<' :: '/' :: names.outer.toList ++ ['>']

end Parts

/-- The opening of a link up to its value, piece by piece. -/
def openingTag (names : PrefetchLinkSettings) : List Pattern :=
  attributeStart names ++ [Lexeme.blanks]

theorem takesAll_openingTag_iff {names : PrefetchLinkSettings} {b w r : Text} {k : Captures} :
    TakesAll (openingTag names) b w r k ↔ Opening names w ∧ k = [] := by
  simp only [openingTag, attributeStart, List.cons_append, List.nil_append, takesAll_literal_cons,
    takesAll_word_cons, Lexeme.takesAll_blanks_cons, Lexeme.takesAll_blanks1_cons, takesAll_nil]
  constructor
  · rintro ⟨_, rfl, _, rfl, s, _, rfl, hs, _, rfl, t, _, rfl, ht, _, rfl, u, _, rfl, hu, rfl, rfl⟩
    exact ⟨⟨s, t, u, by simp, hs, ht, hu⟩, rfl⟩
  · rintro ⟨⟨s, t, u, rfl, hs, ht, hu⟩, rfl⟩
    exact ⟨_, rfl, s ++ (names.linkAttribute.toList ++ (t ++ '=' :: u)), by simp, s, _, rfl, hs, _,
      rfl, t, _, rfl, ht, u, rfl, u, [], by simp, hu, rfl, rfl⟩

/-- The closing tag of a link, piece by piece. -/
def closingTag (names : PrefetchLinkSettings) : List Pattern :=
  [.literal "</", .word names.outer.toList, Lexeme.blanks, .literal ">"]

theorem takesAll_closingTag_iff {names : PrefetchLinkSettings} {b w r : Text} {k : Captures} :
    TakesAll (closingTag names) b w r k ↔ Closing names w ∧ k = [] := by
  simp only [closingTag, takesAll_literal_cons, takesAll_word_cons, Lexeme.takesAll_blanks_cons,
    takesAll_nil]
  constructor
  · rintro ⟨_, rfl, _, rfl, s, _, rfl, hs, _, rfl, rfl, rfl⟩
    exact ⟨⟨s, by simp, hs⟩, rfl⟩
  · rintro ⟨⟨s, rfl, hs⟩, rfl⟩
    exact ⟨_, rfl, _, List.append_assoc _ _ _, s, ['>'], rfl, hs, [], rfl, rfl, rfl⟩

theorem element_eq (names : PrefetchLinkSettings) (value : Pattern) :
    element names value = seqs (openingTag names ++
      [.group valueGroup value, Lexeme.blanks, .literal ">", .group textGroup (.few .full)] ++
      closingTag names) := by
  rw [element, openingTag, closingTag]
  simp

theorem takes_element_iff {names : PrefetchLinkSettings} {F : Form} {b w r : Text}
    {k : Captures} :
    (element names F.value).Takes b w r k ↔ ∃ o v s t c, w = o ++ (v ++ s ++ '>' :: t) ++ c ∧
      Opening names o ∧ F.IsValue v ∧ Spaces s ∧ Closing names c ∧
      k = [(textGroup, .between ('>' :: (s.reverse ++ (v.reverse ++ (o.reverse ++ b)))) (t ++ (c ++ r)),
          .between (t.reverse ++ '>' :: (s.reverse ++ (v.reverse ++ (o.reverse ++ b)))) (c ++ r)),
        (valueGroup, .between (o.reverse ++ b) (v ++ (s ++ '>' :: t ++ (c ++ r))),
          .between (v.reverse ++ (o.reverse ++ b)) (s ++ '>' :: t ++ (c ++ r)))] := by
  rw [element_eq, takes_seqs_iff, takesAll_append]
  simp only [takesAll_append, takesAll_openingTag_iff, takesAll_closingTag_iff, takesAll_group_cons,
    Lexeme.takesAll_blanks_cons, takesAll_literal_cons, F.takes_iff, few, takes_run_iff,
    takesAll_nil]
  constructor
  · rintro ⟨_, c, _, _, rfl, ⟨o, _, _, _, rfl, ⟨ho, rfl⟩, ⟨v, _, _, _, rfl, ⟨hv, rfl⟩, ⟨s, _, rfl, hs,
      _, rfl, t, _, _, _, rfl, ⟨-, rfl⟩, ⟨rfl, rfl⟩, rfl⟩, rfl⟩, rfl⟩, ⟨hc, rfl⟩, rfl⟩
    exact ⟨o, v, s, t, c, by simp, ho, hv, hs, hc, by simp⟩
  · rintro ⟨o, v, s, t, c, rfl, ho, hv, hs, hc, rfl⟩
    refine ⟨o ++ (v ++ s ++ '>' :: t), c, _, [], rfl, ⟨o, v ++ s ++ '>' :: t, [], _, rfl, ⟨ho, rfl⟩,
      ⟨v, s ++ '>' :: t, [], _, by simp, ⟨hv, rfl⟩, ⟨s, '>' :: t, rfl, hs, t, rfl, t, [], [], [],
      by simp, ⟨by simp, rfl⟩, ⟨rfl, rfl⟩, rfl⟩, rfl⟩, rfl⟩, ⟨hc, rfl⟩, ?_⟩
    simp

theorem fits_element_iff {names : PrefetchLinkSettings} {F : Form} {b a : Text} :
    (element names F.value).Fits b a ↔ BeginsLink names F a := by
  simp only [Fits, takes_element_iff]
  constructor
  · rintro ⟨_, r, _, rfl, o, v, s, t, c, rfl, ho, hv, hs, hc, rfl⟩
    exact ⟨o, v, s, t ++ c ++ r, by simp, ho, hv, hs, t, c, r, rfl, hc⟩
  · rintro ⟨o, v, s, _, rfl, ho, hv, hs, t, c, r, rfl, hc⟩
    exact ⟨_, r, _, by simp, o, v, s, t, c, rfl, ho, hv, hs, hc, rfl⟩

/-- What a link takes, and the nested elements in its place. -/
theorem wrapLink_of_takes {names : PrefetchLinkSettings} {F : Form} {b w r : Text} {k : Captures}
    (h : (element names F.value).Takes b w r k) :
    ∃ o v s t c, w = o ++ (v ++ s ++ '>' :: t) ++ c ∧ Opening names o ∧ F.IsValue v ∧ Spaces s ∧
      Closing names c ∧ wrapLink names (.taken b w r k) =
        nestedOpening names ++ v ++ '>' :: t ++ nestedClosing names := by
  obtain ⟨o, v, s, t, c, hw, ho, hv, hs, hc, rfl⟩ := takes_element_iff.1 h
  refine ⟨o, v, s, t, c, hw, ho, hv, hs, hc, ?_⟩
  rw [wrapLink, Match.group_taken (by decide), Match.group_taken_cons (by decide) (by decide),
    Match.group_taken (by decide), nestedOpening, nestedClosing]
  simp

/-! ### The pieces of a pass -/

/-- The parts of a link that give way. -/
inductive Part
  /-- The opening up to the value, with the mark that begins the value. -/
  | opening (mark : Char)
  /-- The bracket that ends the opening, with the space before it. -/
  | bracket
  /-- The closing tag. -/
  | closing

/-- The part as it stands in a link or in the nested elements. -/
def Part.Reads (names : PrefetchLinkSettings) : Part → Text → Prop
  | opening q, x => isMark q = true ∧ ∃ h, x = h ++ [q] ∧ (Opening names h ∨ h = nestedOpening names)
  | bracket, x => ∃ s, x = s ++ ['>'] ∧ Spaces s
  | closing, x => Closing names x ∨ x = nestedClosing names

/-- Both texts are the same part of a link or of the nested elements. -/
def SamePart (names : PrefetchLinkSettings) (o n : Text) : Prop :=
  ∃ part : Part, part.Reads names o ∧ part.Reads names n

theorem SamePart.symm {names : PrefetchLinkSettings} {o n : Text} (h : SamePart names o n) :
    SamePart names n o := by
  obtain ⟨part, ho, hn⟩ := h
  exact ⟨part, hn, ho⟩

/-- What gives way in a link of the form and what takes its place. -/
inductive Turned (names : PrefetchLinkSettings) (F : Form) : Text → Text → Prop
  | opening {h : Text} {q : Char} (hh : Opening names h) (hq : q ∈ F.initials) :
      Turned names F (h ++ [q]) (nestedOpening names ++ [q])
  | bracket {s : Text} (hs : Spaces s) : Turned names F (s ++ ['>']) ['>']
  | closing {c : Text} (hc : Closing names c) : Turned names F c (nestedClosing names)

theorem Turned.samePart {names : PrefetchLinkSettings} {F : Form} {o n : Text}
    (h : Turned names F o n) : SamePart names o n := by
  cases h with
  | opening hh hq =>
      have hmark := F.isMark_initial _ hq
      exact ⟨.opening _, ⟨hmark, _, rfl, .inl hh⟩, hmark, _, rfl, .inr rfl⟩
  | bracket hs => exact ⟨.bracket, ⟨_, rfl, hs⟩, [], rfl, spaces_nil⟩
  | closing hc => exact ⟨.closing, .inl hc, .inr rfl⟩

/-! ### Names that keep the parts apart -/

/-- Can the character stand in a name: is it neither white space nor one of the
characters that tags and values are made of? -/
def isNameChar (c : Char) : Bool :=
  !Unicode.isSpace c && !isMark c && !(['<', '>', '/', '='].contains c)

/-- The names of components and attributes are words, and the two components have
different ones. -/
structure WellNamed (names : PrefetchLinkSettings) : Prop where
  /-- The outer component has a name. -/
  outer : names.outer.toList ≠ [] ∧ ∀ c ∈ names.outer.toList, isNameChar c = true
  /-- The inner component has a name. -/
  inner : names.inner.toList ≠ [] ∧ ∀ c ∈ names.inner.toList, isNameChar c = true
  /-- The attribute has a name. -/
  link : names.linkAttribute.toList ≠ [] ∧ ∀ c ∈ names.linkAttribute.toList, isNameChar c = true
  /-- The flag has a name. -/
  flag : names.outerFlag.toList ≠ [] ∧ ∀ c ∈ names.outerFlag.toList, isNameChar c = true
  /-- The components are different. -/
  inner_ne_outer : names.inner.toList ≠ names.outer.toList

theorem wellNamed_default : WellNamed {} where
  outer := ⟨by decide, List.all_eq_true.1 (by decide)⟩
  inner := ⟨by decide, List.all_eq_true.1 (by decide)⟩
  link := ⟨by decide, List.all_eq_true.1 (by decide)⟩
  flag := ⟨by decide, List.all_eq_true.1 (by decide)⟩
  inner_ne_outer := by decide

/-- Can the character stand in an opening behind its bracket: in a name, between names or
before the value? -/
def isInner (c : Char) : Bool := isNameChar c || Unicode.isSpace c || c == '='

/-- The text can stand in an opening behind its bracket. -/
def Inner (w : Text) : Prop := ∀ c ∈ w, isInner c = true

theorem Inner.append {v w : Text} (hv : Inner v) (hw : Inner w) : Inner (v ++ w) := fun c hc =>
  (List.mem_append.1 hc).elim (hv c) (hw c)

theorem inner_of_isNameChar {w : Text} (h : ∀ c ∈ w, isNameChar c = true) : Inner w :=
  fun c hc => by simp [isInner, h c hc]

theorem inner_of_spaces {s : Text} (h : Spaces s) : Inner s :=
  fun c hc => by simp [isInner, h c hc]

theorem Inner.not_mem {w : Text} (h : Inner w) {c : Char} (hc : isInner c = false) : c ∉ w :=
  fun hmem => by
    rw [h c hmem] at hc
    cases hc

theorem Inner.bracket_not_mem {w : Text} (h : Inner w) : '<' ∉ w := h.not_mem (by decide)

theorem isInner_of_isMark {c : Char} (h : isMark c = true) : isInner c = false := by
  simp only [isMark, List.contains_iff_mem, List.mem_cons, List.not_mem_nil, or_false] at h
  rcases h with rfl | rfl | rfl | rfl <;> decide

theorem Inner.marks_eq_nil {w : Text} (h : Inner w) : marks w = [] := by
  rw [marks, List.filter_eq_nil_iff]
  exact fun c hc hmark => h.not_mem (isInner_of_isMark hmark) hc

theorem inner_equals : Inner ['='] := by simp [Inner, isInner]

theorem inner_blank : Inner [' '] := inner_of_spaces (by simp; decide)

theorem Inner.lacks {w : Text} (h : Inner w) : Lacks '<' '/' w :=
  lacks_of_not_mem h.bracket_not_mem

theorem lacks_of_isMark {q : Char} (h : isMark q = true) : Lacks '<' '/' [q] :=
  lacks_of_not_mem fun hmem => by
    rw [← List.mem_singleton.1 hmem] at h
    exact absurd h (by decide)

section

variable {names : PrefetchLinkSettings} (hn : WellNamed names)

include hn

theorem Opening.eq_cons {h : Text} (hh : Opening names h) : ∃ h', h = '<' :: h' ∧ Inner h' := by
  obtain ⟨s, t, u, rfl, hs, ht, hu⟩ := hh
  refine ⟨names.outer.toList ++ s ++ names.linkAttribute.toList ++ t ++ ['='] ++ u, by simp, ?_⟩
  exact .append (.append (.append (.append (.append (inner_of_isNameChar hn.outer.2)
    (inner_of_spaces hs.1)) (inner_of_isNameChar hn.link.2)) (inner_of_spaces ht)) inner_equals)
    (inner_of_spaces hu)

theorem Closing.eq_cons {c : Text} (hc : Closing names c) :
    ∃ c', c = '<' :: '/' :: c' ++ ['>'] ∧ Inner c' := by
  obtain ⟨s, rfl, hs⟩ := hc
  exact ⟨names.outer.toList ++ s, by simp, .append (inner_of_isNameChar hn.outer.2)
    (inner_of_spaces hs)⟩

theorem marks_nestedOpening : marks (nestedOpening names) = [] := by
  have houter := (inner_of_isNameChar hn.outer.2).marks_eq_nil
  have hflag := (inner_of_isNameChar hn.flag.2).marks_eq_nil
  have hinner := (inner_of_isNameChar hn.inner.2).marks_eq_nil
  have hlink := (inner_of_isNameChar hn.link.2).marks_eq_nil
  simp only [marks] at houter hflag hinner hlink
  simp [nestedOpening, marks, houter, hflag, hinner, hlink, List.filter_cons]
  decide

theorem marks_nestedClosing : marks (nestedClosing names) = [] := by
  have houter := (inner_of_isNameChar hn.outer.2).marks_eq_nil
  have hinner := (inner_of_isNameChar hn.inner.2).marks_eq_nil
  simp only [marks] at houter hinner
  simp [nestedClosing, marks, houter, hinner, List.filter_cons]
  decide

end

theorem ne_of_isNameChar {c : Char} (h : isNameChar c = true) :
    c ≠ '<' ∧ c ≠ '>' ∧ c ≠ '/' ∧ Unicode.isSpace c = false := by
  refine ⟨?_, ?_, ?_, ?_⟩
  · rintro rfl
    exact absurd h (by decide)
  · rintro rfl
    exact absurd h (by decide)
  · rintro rfl
    exact absurd h (by decide)
  · rw [isNameChar, Bool.and_eq_true, Bool.and_eq_true, Bool.not_eq_true'] at h
    exact h.1.1

theorem ne_of_isMark {c : Char} (h : isMark c = true) :
    c ≠ '<' ∧ c ≠ '>' ∧ Unicode.isSpace c = false := by
  simp only [isMark, List.contains_iff_mem, List.mem_cons, List.not_mem_nil, or_false] at h
  rcases h with rfl | rfl | rfl | rfl <;> decide

/-- A tag in which a name follows the bracket closes nothing. -/
theorem lacks_tag {w r : Text} (hw : w ≠ [] ∧ ∀ c ∈ w, isNameChar c = true)
    (hr : Lacks '<' '/' r) : Lacks '<' '/' ('<' :: w ++ r) := by
  obtain ⟨hne, hname⟩ := hw
  have htail : Lacks '<' '/' w :=
    lacks_of_not_mem fun hmem => (ne_of_isNameChar (hname _ hmem)).1 rfl
  obtain ⟨c, w, rfl⟩ := List.exists_cons_of_ne_nil hne
  exact ⟨fun _ => ⟨c, w ++ r, rfl, (ne_of_isNameChar (hname c List.mem_cons_self)).2.2.1⟩,
    htail.append hr⟩

theorem hasClosing_iff {names : PrefetchLinkSettings} {a : Text} :
    HasClosing names a ↔ ∃ u v, a = u ++ v ∧ BeginsClosing names v := by
  constructor
  · rintro ⟨t, c, r, rfl, hc⟩
    exact ⟨t, c ++ r, List.append_assoc t c r, c, r, rfl, hc⟩
  · rintro ⟨t, _, rfl, c, r, rfl, hc⟩
    exact ⟨t, c, r, (List.append_assoc t c r).symm, hc⟩

theorem hasClosing_nestedClosing {names : PrefetchLinkSettings} (r : Text) :
    HasClosing names (nestedClosing names ++ r) :=
  ⟨'<' :: '/' :: names.inner.toList ++ ['>'], '<' :: '/' :: names.outer.toList ++ ['>'], r,
    by simp [nestedClosing], [], by simp, spaces_nil⟩

/-- The mark that ends the part. -/
def Part.mark : Part → Text
  | opening q => [q]
  | bracket | closing => []

theorem Part.length_mark_le (part : Part) : part.mark.length ≤ 1 := by
  cases part <;> simp [mark]

theorem eq_of_append_isMark {y m z u r : Text} {x : Char} (hy : marks y = []) (hm : m.length ≤ 1)
    (hx : isMark x = true) (h : y ++ m ++ z = u ++ x :: r) :
    (∃ w, u = y ++ m ++ w ∧ z = w ++ x :: r) ∨ u = y ∧ m = [x] ∧ z = r := by
  have hxy : x ∉ y := fun hmem => by
    have := (mem_marks hx).2 hmem
    rw [hy] at this
    cases this
  rcases List.append_eq_append_iff.1 h with ⟨w, hu, hz⟩ | ⟨w, hu, hz⟩
  · exact .inl ⟨w, hu, hz⟩
  · cases w with
    | nil => exact .inl ⟨[], by simpa using hu.symm, by simpa using hz.symm⟩
    | cons x' w =>
        obtain ⟨rfl, rfl⟩ := List.cons.inj hz
        rcases List.append_eq_append_iff.1 hu with ⟨v, rfl, rfl⟩ | ⟨v, rfl, hv⟩
        · simp only [List.length_append, List.length_cons] at hm
          obtain rfl : v = [] := List.eq_nil_of_length_eq_zero (by omega)
          obtain rfl : w = [] := List.eq_nil_of_length_eq_zero (by omega)
          exact .inr ⟨by simp, rfl, rfl⟩
        · cases v with
          | nil =>
              obtain rfl : m = x :: w := hv.symm
              obtain rfl : w = [] := List.eq_nil_of_length_eq_zero (by simpa using hm)
              exact .inr ⟨by simp, rfl, rfl⟩
          | cons x' v =>
              obtain ⟨rfl, -⟩ := List.cons.inj hv
              simp at hxy

section

variable {names : PrefetchLinkSettings} (hn : WellNamed names)

include hn

/-- A part has no marks but the one that ends it. -/
theorem Part.Reads.exists_eq_append {part : Part} {x : Text} (h : part.Reads names x) :
    ∃ y, x = y ++ part.mark ∧ marks y = [] := by
  cases part with
  | opening q =>
      obtain ⟨-, h, rfl, hh | rfl⟩ := h
      · obtain ⟨h', rfl, hinner⟩ := hh.eq_cons hn
        exact ⟨_, rfl, by simpa [marks, isMark] using hinner.marks_eq_nil⟩
      · exact ⟨_, rfl, marks_nestedOpening hn⟩
  | bracket =>
      obtain ⟨s, rfl, hs⟩ := h
      refine ⟨_, (List.append_nil _).symm, ?_⟩
      rw [marks_append, (inner_of_spaces hs).marks_eq_nil]
      rfl
  | closing =>
      refine ⟨x, (List.append_nil x).symm, ?_⟩
      rcases h with hc | rfl
      · obtain ⟨c', rfl, hinner⟩ := hc.eq_cons hn
        have := hinner.marks_eq_nil
        simp only [marks] at this
        simp [marks, this, List.filter_cons]
        decide
      · exact marks_nestedClosing hn

/-- Where a mark stands in the old text, it stands in the new one, behind the same marks. -/
theorem exists_newText_of_isMark {ps : List Piece} (hps : All (SamePart names) ps) {x : Char}
    (hx : isMark x = true) {u r : Text} (h : oldText ps = u ++ x :: r) :
    ∃ u' qs, newText ps = u' ++ x :: newText qs ∧ oldText qs = r ∧ marks u' = marks u ∧
      All (SamePart names) qs := by
  induction ps generalizing u with
  | nil => simp at h
  | cons p ps ih =>
      cases p with
      | kept c =>
          cases u with
          | nil =>
              obtain ⟨rfl, rfl⟩ := List.cons.inj h
              exact ⟨[], ps, rfl, rfl, rfl, hps.of_cons⟩
          | cons d u =>
              obtain ⟨rfl, htail⟩ := List.cons.inj h
              obtain ⟨u', qs, hnew, hold, hmarks, hqs⟩ := ih hps.of_cons htail
              refine ⟨c :: u', qs, by rw [newText_kept, hnew]; rfl, hold, ?_, hqs⟩
              show marks ([c] ++ u') = marks ([c] ++ u)
              rw [marks_append, marks_append, hmarks]
      | swapped o n =>
          obtain ⟨part, hreads, hreads'⟩ := hps.head
          obtain ⟨o', rfl, ho'⟩ := hreads.exists_eq_append hn
          obtain ⟨n', rfl, hn'⟩ := hreads'.exists_eq_append hn
          rw [newText_swapped]
          -- the mark stands behind the part, or it is the one that ends it
          rcases eq_of_append_isMark ho' part.length_mark_le hx h with ⟨w, rfl, htail⟩ | ⟨rfl, hq, rfl⟩
          · obtain ⟨u', qs, hnew, hold, hmarks, hqs⟩ := ih hps.of_cons htail
            refine ⟨n' ++ part.mark ++ u', qs, by rw [hnew]; simp, hold, ?_, hqs⟩
            rw [marks_append, marks_append, marks_append, marks_append, ho', hn', hmarks]
          · exact ⟨n', ps, by rw [hq, List.append_assoc]; rfl, rfl, by rw [ho', hn'], hps.of_cons⟩

/-- A part begins with the bracket of a tag, or it is the space before a bracket. -/
theorem Part.Reads.eq_cons_or {part : Part} {x : Text} (h : part.Reads names x) :
    (∃ x', x = '<' :: x') ∨ ∃ s, x = s ++ ['>'] ∧ Spaces s ∧ part = .bracket := by
  cases part with
  | opening q =>
      obtain ⟨-, h, rfl, hh | rfl⟩ := h
      · obtain ⟨h', rfl, -⟩ := hh.eq_cons hn
        exact .inl ⟨_, rfl⟩
      · exact .inl ⟨_, rfl⟩
  | bracket =>
      obtain ⟨s, rfl, hs⟩ := h
      exact .inr ⟨s, rfl, hs, rfl⟩
  | closing =>
      rcases h with hc | rfl
      · obtain ⟨c', rfl, -⟩ := hc.eq_cons hn
        exact .inl ⟨_, rfl⟩
      · exact .inl ⟨_, rfl⟩

/-- Where a bracket follows white space in the old text, it does so in the new one. -/
theorem exists_newText_of_spaces {ps : List Piece} (hps : All (SamePart names) ps) {s r : Text}
    (hs : Spaces s) (h : oldText ps = s ++ '>' :: r) :
    ∃ s' qs, newText ps = s' ++ '>' :: newText qs ∧ oldText qs = r ∧ Spaces s' ∧
      All (SamePart names) qs := by
  induction ps generalizing s with
  | nil => simp at h
  | cons p ps ih =>
      cases p with
      | kept c =>
          cases s with
          | nil =>
              obtain ⟨rfl, rfl⟩ := List.cons.inj h
              exact ⟨[], ps, rfl, rfl, spaces_nil, hps.of_cons⟩
          | cons d s =>
              obtain ⟨rfl, htail⟩ := List.cons.inj h
              obtain ⟨hc, hs⟩ := spaces_cons.1 hs
              obtain ⟨s', qs, hnew, hold, hs', hqs⟩ := ih hps.of_cons hs htail
              exact ⟨c :: s', qs, by rw [newText_kept, hnew]; rfl, hold, spaces_cons.2 ⟨hc, hs'⟩, hqs⟩
      | swapped o n =>
          obtain ⟨part, ho, hn'⟩ := hps.head
          rw [oldText_swapped] at h
          rcases ho.eq_cons_or hn with ⟨o', rfl⟩ | ⟨z, rfl, hz, rfl⟩
          · cases s with
            | nil => exact absurd (List.cons.inj h).1 (by decide)
            | cons d s =>
                obtain ⟨rfl, -⟩ := List.cons.inj h
                exact absurd (spaces_cons.1 hs).1 (by decide)
          · rw [List.append_assoc] at h
            obtain ⟨rfl, -, rfl⟩ := hz.append_inj hs (by decide) (by decide) h
            obtain ⟨z', rfl, hz'⟩ := hn'
            exact ⟨z', ps, by simp, rfl, hz', hps.of_cons⟩

/-- No part begins inside a text that can stand in an opening, if a mark follows it. -/
theorem not_isPrefix_of_inner {part : Part} {x : Text} (h : part.Reads names x) {w r : Text}
    (hw : Inner w) {q : Char} (hq : isInner q = false) (hq' : q ≠ '<' ∧ q ≠ '>') :
    ¬ x <+: w ++ q :: r := by
  rintro ⟨t, ht⟩
  rcases h.eq_cons_or hn with ⟨x', rfl⟩ | ⟨s, rfl, hs, -⟩
  · cases w with
    | nil => exact hq'.1 (List.cons.inj ht).1.symm
    | cons c w => exact hw.not_mem (c := '<') (by decide) (by rw [(List.cons.inj ht).1]; simp)
  · rw [List.append_assoc] at ht
    have hends := append_cons_inj (inner_of_spaces hs) hw (by decide) (by simp [hq]) ht
    exact hq'.2 hends.2.1.symm

theorem Part.Reads.not_isPrefix_cons {part : Part} {x : Text} (h : part.Reads names x) {c : Char}
    {r : Text} (hc : c ≠ '<' ∧ c ≠ '>' ∧ Unicode.isSpace c = false) : ¬ x <+: c :: r := by
  rintro ⟨t, ht⟩
  rcases h.eq_cons_or hn with ⟨x', rfl⟩ | ⟨s, rfl, hs, -⟩
  · exact hc.1 (List.cons.inj ht).1.symm
  · cases s with
    | nil => exact hc.2.1 (List.cons.inj ht).1.symm
    | cons d s =>
        have hd := (spaces_cons.1 hs).1
        rw [(List.cons.inj ht).1, hc.2.2] at hd
        cases hd

/-- No closing tag begins in the opening of a link or of the nested elements. -/
theorem lacks_of_reads {part : Part} {x : Text} (h : part.Reads names x) :
    part = .closing ∨ Lacks '<' '/' x := by
  cases part with
  | opening q =>
      obtain ⟨hq, h, rfl, ⟨s, t, u, rfl, hs, ht, hu⟩ | rfl⟩ := h
      · have hrest : Lacks '<' '/' (s ++ names.linkAttribute.toList ++ t ++ ['='] ++ u ++ [q]) :=
          .append ((((Inner.append (inner_of_spaces hs.1) (inner_of_isNameChar hn.link.2)).append
            (inner_of_spaces ht)).append inner_equals).append (inner_of_spaces hu)).lacks
            (lacks_of_isMark hq)
        exact .inr (by simpa using lacks_tag hn.outer hrest)
      · have hflag : Lacks '<' '/' (' ' :: names.outerFlag.toList ++ ['>']) :=
          .append (Inner.append inner_blank (inner_of_isNameChar hn.flag.2)).lacks (by simp [Lacks])
        have hlink : Lacks '<' '/' (' ' :: names.linkAttribute.toList ++ ['='] ++ [q]) :=
          .append ((Inner.append inner_blank (inner_of_isNameChar hn.link.2)).append
            inner_equals).lacks (lacks_of_isMark hq)
        refine .inr ?_
        simpa [nestedOpening] using lacks_tag hn.outer (hflag.append (lacks_tag hn.inner hlink))
  | bracket =>
      obtain ⟨s, rfl, hs⟩ := h
      refine .inr (lacks_of_not_mem fun hmem => ?_)
      rcases List.mem_append.1 hmem with hmem | hmem
      · exact (inner_of_spaces hs).not_mem (by decide) hmem
      · exact absurd hmem (by decide)
  | closing => exact .inl rfl

/-- A closing tag at a character that stays is there in the new text too. -/
theorem beginsClosing_newText {d : Char} {ps : List Piece} (hps : All (SamePart names) ps)
    (h : BeginsClosing names (d :: oldText ps)) : BeginsClosing names (d :: newText ps) := by
  obtain ⟨c, r, heq, s, rfl, hs⟩ := h
  obtain ⟨rfl, htail⟩ := List.cons.inj heq
  have hword : oldText ps = ('/' :: names.outer.toList) ++ (s ++ '>' :: r) := by simpa using htail
  -- the slash and the name stay, for no part begins in them
  obtain ⟨qs, rfl, hqs⟩ := eq_kept_append hword fun o n hmem u v huv hv => by
    obtain ⟨part, ho, -⟩ := hps o n hmem
    obtain ⟨d, v, rfl⟩ := List.exists_cons_of_ne_nil hv
    have hd : d ∈ '/' :: names.outer.toList := by simp [huv]
    refine ho.not_isPrefix_cons hn ?_
    rcases List.mem_cons.1 hd with rfl | hd
    · decide
    · have := ne_of_isNameChar (hn.outer.2 d hd)
      exact ⟨this.1, this.2.1, this.2.2.2⟩
  obtain ⟨s', qs', hnew, -, hs', -⟩ := exists_newText_of_spaces hn
    (fun o n hmem => hps o n (List.mem_append_right _ hmem)) hs hqs
  exact ⟨'<' :: '/' :: names.outer.toList ++ s' ++ ['>'], newText qs', by simp [hnew], s', rfl, hs'⟩

/-- A part in which a closing tag begins is one, and leaves one. -/
theorem never_beginsClosing_or {o n : Text} (h : SamePart names o n) (r : Text) :
    Never (BeginsClosing names) o ∨ HasClosing names (n ++ r) := by
  obtain ⟨part, ho, hn'⟩ := h
  rcases lacks_of_reads hn ho with rfl | hlacks
  · rcases hn' with hc | rfl
    · exact .inr ⟨[], n, r, rfl, hc⟩
    · exact .inr (hasClosing_nestedClosing r)
  · refine .inl fun u v t huv hv hclosing => ?_
    obtain ⟨_, r', hc, s, rfl, -⟩ := hclosing
    subst huv
    refine hlacks.not_isPrefix (t := t) hv ?_
    rw [hc]
    exact ⟨names.outer.toList ++ s ++ ['>'] ++ r', by simp⟩

theorem hasClosing_newText {ps : List Piece} (hps : All (SamePart names) ps)
    (h : HasClosing names (oldText ps)) : HasClosing names (newText ps) := by
  rw [hasClosing_iff] at h ⊢
  refine exists_newText_of_exists ?_ (fun d ps hps => beginsClosing_newText hn hps) ?_ hps h
  · rintro ⟨_, r, heq, s, rfl, -⟩
    cases heq
  · intro o n ps hon
    rw [← hasClosing_iff]
    exact never_beginsClosing_or hn hon (newText ps)

/-- A link at a character that stays is there in the new text too. -/
theorem beginsLink_newText {F : Form} {c : Char} {ps : List Piece}
    (hps : All (SamePart names) ps) (h : BeginsLink names F (c :: oldText ps)) :
    BeginsLink names F (c :: newText ps) := by
  obtain ⟨o, v, s, r, heq, ho, hv, hs, hr⟩ := h
  obtain ⟨o', rfl, hinner⟩ := ho.eq_cons hn
  obtain ⟨q, u, q', rfl, hq, hq'⟩ := F.exists_ends v hv
  have hmark := F.isMark_initial q hq
  have hne := ne_of_isMark hmark
  obtain ⟨rfl, htail⟩ := List.cons.inj heq
  have hold : oldText ps = o' ++ q :: (u ++ q' :: (s ++ '>' :: r)) := by simpa using htail
  -- the opening and the mark behind it stay, for no part begins in them
  obtain ⟨qs, rfl, hqs⟩ := eq_kept_append hold fun o n hmem a b hab _ => by
    obtain ⟨part, hreads, -⟩ := hps o n hmem
    refine not_isPrefix_of_inner hn hreads (fun c hc => hinner c ?_) (isInner_of_isMark hmark)
      ⟨hne.1, hne.2.1⟩
    rw [hab]
    exact List.mem_append_right a hc
  have hall : All (SamePart names) qs := fun o n hmem => hps o n (List.mem_append_right _ hmem)
  obtain ⟨qs, rfl, hvalue⟩ := eq_kept_cons hqs fun o n hmem => by
    obtain ⟨part, hreads, -⟩ := hall o n hmem
    exact hreads.not_isPrefix_cons hn hne
  -- behind it, one delimiter after another is found again
  obtain ⟨u', rs, hnew, hold', hmarks, hall⟩ := exists_newText_of_isMark hn hall.of_cons hq' hvalue
  obtain ⟨s', rs, hnew', rfl, hs', hall⟩ := exists_newText_of_spaces hn hall hs hold'
  refine ⟨'<' :: o', q :: u' ++ [q'], s', newText rs, ?_, ho, F.of_marks_eq q u u' q' hmarks hv, hs',
    hasClosing_newText hn hall hr⟩
  simp [hnew, hnew']

end

/-! ### Texts in which no link begins -/

/-- No link begins in the text, whatever follows it. -/
abbrev Linkless (names : PrefetchLinkSettings) (F : Form) (w : Text) : Prop :=
  Never (BeginsLink names F) w

section

variable {names : PrefetchLinkSettings} {F : Form}

theorem BeginsLink.eq_cons {a : Text} (h : BeginsLink names F a) : ∃ a', a = '<' :: a' := by
  obtain ⟨_, v, s, r, rfl, ⟨s', t, u, rfl, -, -, -⟩, -⟩ := h
  exact ⟨_, rfl⟩

theorem linkless_of_not_mem {w : Text} (h : '<' ∉ w) : Linkless names F w := by
  rintro u v t rfl hv hlink
  obtain ⟨c, v, rfl⟩ := List.exists_cons_of_ne_nil hv
  obtain ⟨a, ha⟩ := hlink.eq_cons
  obtain ⟨rfl, -⟩ := List.cons.inj ha
  simp at h

theorem Inner.linkless {w : Text} (h : Inner w) : Linkless names F w :=
  linkless_of_not_mem h.bracket_not_mem

variable (hn : WellNamed names)

include hn

theorem not_beginsLink_of_ne {w r : Text} {x : Char} (hw : ∀ c ∈ w, isNameChar c = true)
    (hx : isNameChar x = false) (hne : w ≠ names.outer.toList) :
    ¬ BeginsLink names F ('<' :: w ++ x :: r) := by
  rintro ⟨_, v, s, r', heq, ⟨s', t, u, rfl, hs', -, -⟩, -⟩
  obtain ⟨y, s', rfl⟩ := List.exists_cons_of_ne_nil hs'.2
  have hy : isNameChar y = false := by simp [isNameChar, (spaces_cons.1 hs'.1).1]
  have hword : w ++ x :: r = names.outer.toList ++ y :: (s' ++ names.linkAttribute.toList ++ t ++
      '=' :: u ++ v ++ s ++ '>' :: r') := by simpa using heq
  exact hne (append_cons_inj hw hn.outer.2 (by simp [hx]) (by simp [hy]) hword).1

theorem not_beginsLink_nestedOpening (t : Text) : ¬ BeginsLink names F (nestedOpening names ++ t) := by
  rintro ⟨_, v, s, r, heq, ⟨s', t', u, rfl, hs', ht', -⟩, -⟩
  obtain ⟨a, as, ha⟩ := List.exists_cons_of_ne_nil hn.link.1
  obtain ⟨f, fs, hf⟩ := List.exists_cons_of_ne_nil hn.flag.1
  have hspace : [' '] ++ f :: (fs ++ '>' :: ('<' :: names.inner.toList ++ ' ' ::
      names.linkAttribute.toList ++ '=' :: t)) = s' ++ a :: (as ++ t' ++ '=' :: u ++ v ++ s ++
      '>' :: r) := by
    simpa [nestedOpening, ha, hf] using heq
  have hisSpace : ∀ {w : String} {c : Char} {cs : Text}, (∀ c ∈ w.toList, isNameChar c = true) →
      w.toList = c :: cs → Unicode.isSpace c = false := fun hw hcs =>
    (ne_of_isNameChar (hw _ (by rw [hcs]; exact List.mem_cons_self))).2.2.2
  obtain ⟨-, rfl, hrest⟩ := Spaces.append_inj (by simp; decide) hs'.1 (hisSpace hn.flag.2 hf)
    (hisSpace hn.link.2 ha) hspace
  -- the flag ends at a bracket, the attribute at white space or a sign
  obtain ⟨y, z, hyz, hy, hname⟩ : ∃ y z, t' ++ '=' :: u ++ v ++ s ++ '>' :: r = y :: z ∧ y ≠ '>' ∧
      isNameChar y = false := by
    cases t' with
    | nil => exact ⟨'=', _, rfl, by decide, by decide⟩
    | cons y t' =>
        have hy := (spaces_cons.1 ht').1
        refine ⟨y, _, rfl, ?_, by simp [isNameChar, hy]⟩
        rintro rfl
        exact absurd hy (by decide)
  have hends : fs ++ '>' :: ('<' :: names.inner.toList ++ ' ' :: names.linkAttribute.toList ++
      '=' :: t) = as ++ y :: z := by
    rw [hrest, ← hyz]
    simp
  refine hy (append_cons_inj (P := fun c => isNameChar c = true) (fun c hc => hn.flag.2 c ?_)
    (fun c hc => hn.link.2 c ?_) (by decide) (by simp [hname]) hends).2.1.symm
  · rw [hf]
    exact List.mem_cons_of_mem _ hc
  · rw [ha]
    exact List.mem_cons_of_mem _ hc

theorem not_beginsLink_closing (t : Text) : ¬ BeginsLink names F ('<' :: '/' :: t) :=
  not_beginsLink_of_ne hn (w := []) (by simp) (by decide) hn.outer.1.symm

theorem linkless_closing {w : Text} (hw : Inner w) : Linkless names F ('<' :: '/' :: w ++ ['>']) := by
  have htail : '<' ∉ '/' :: w ++ ['>'] := by simp [hw.bracket_not_mem]
  exact (linkless_of_not_mem htail).cons fun t => not_beginsLink_closing hn _

theorem linkless_nestedOpening : Linkless names F (nestedOpening names) := by
  have hflag : Linkless names F (names.outer.toList ++ [' '] ++ names.outerFlag.toList ++ ['>']) :=
    .append (((inner_of_isNameChar hn.outer.2).append inner_blank).append
      (inner_of_isNameChar hn.flag.2)).linkless (linkless_of_not_mem (by decide))
  have hlink : Linkless names F
      (names.inner.toList ++ [' '] ++ names.linkAttribute.toList ++ ['=']) :=
    ((((inner_of_isNameChar hn.inner.2).append inner_blank).append
      (inner_of_isNameChar hn.link.2)).append inner_equals).linkless
  have hinner := hlink.cons fun t => by
    have := not_beginsLink_of_ne (F := F) hn (r := names.linkAttribute.toList ++ '=' :: t)
      (x := ' ') hn.inner.2 (by decide) hn.inner_ne_outer
    simpa using this
  have hopening := (hflag.append hinner).cons fun t => by
    have := not_beginsLink_nestedOpening (F := F) hn t
    simpa [nestedOpening] using this
  simpa [nestedOpening] using hopening

theorem linkless_nestedClosing : Linkless names F (nestedClosing names) := by
  have hboth := (linkless_closing (F := F) hn (inner_of_isNameChar hn.inner.2)).append
    (linkless_closing hn (inner_of_isNameChar hn.outer.2))
  simpa [nestedClosing] using hboth

/-- No link begins in what takes the place of a part. -/
theorem linkless_of_turned {G : Form} {o n : Text} (h : Turned names G o n) :
    Linkless names F n := by
  cases h with
  | @opening h q hh hq =>
      have hq' := (ne_of_isMark (G.isMark_initial q hq)).1
      exact (linkless_nestedOpening hn).append (linkless_of_not_mem (by simpa using hq'.symm))
  | bracket => exact linkless_of_not_mem (by decide)
  | closing hc => exact linkless_nestedClosing hn

/-- No tag begins in a part behind its first character. -/
theorem bracket_not_mem_of_turned {G : Form} {c : Char} {o n : Text}
    (h : Turned names G (c :: o) n) : '<' ∉ o := by
  generalize hx : c :: o = x at h
  cases h with
  | @opening h q hh hq =>
      obtain ⟨h', rfl, hinner⟩ := hh.eq_cons hn
      obtain ⟨-, rfl⟩ := List.cons.inj hx
      have hq' := (ne_of_isMark (G.isMark_initial q hq)).1
      simpa [hinner.bracket_not_mem] using hq'.symm
  | @bracket s hs =>
      cases s with
      | nil =>
          obtain ⟨-, rfl⟩ := List.cons.inj hx
          simp
      | cons d s =>
          obtain ⟨-, rfl⟩ := List.cons.inj hx
          simp [(inner_of_spaces (spaces_cons.1 hs).2).bracket_not_mem]
  | closing hc =>
      obtain ⟨c', rfl, hinner⟩ := hc.eq_cons hn
      obtain ⟨-, rfl⟩ := List.cons.inj hx
      simp [hinner.bracket_not_mem]

theorem linkless_tail_of_turned {G : Form} {c : Char} {o n : Text} (h : Turned names G (c :: o) n) :
    Linkless names F o :=
  linkless_of_not_mem (bracket_not_mem_of_turned hn h)

/-- An opening ends before the first mark. -/
theorem Opening.append_inj {h h' r r' : Text} {q q' : Char} (hh : Opening names h)
    (hh' : Opening names h') (hq : isMark q = true) (hq' : isMark q' = true)
    (heq : h ++ q :: r = h' ++ q' :: r') : h = h' ∧ q = q' ∧ r = r' := by
  have hunmarked : ∀ {h}, Opening names h → ∀ c ∈ h, isMark c = false := by
    intro h hh c hc
    obtain ⟨h', rfl, hinner⟩ := hh.eq_cons hn
    rcases List.mem_cons.1 hc with rfl | hc
    · decide
    · exact Bool.eq_false_iff.2 fun hmark => hinner.not_mem (isInner_of_isMark hmark) hc
  exact append_cons_inj (P := fun c => isMark c = false) (hunmarked hh) (hunmarked hh')
    (by simp [hq]) (by simp [hq']) heq

/-- No link of one form begins with the opening of a link of another. -/
theorem not_beginsLink_opening {h t : Text} {q : Char} (hh : Opening names h)
    (hmark : isMark q = true) (hq : q ∉ F.initials) : ¬ BeginsLink names F (h ++ [q] ++ t) := by
  rintro ⟨h', v, s, r, heq, hh', hv, -, -⟩
  obtain ⟨q', u, q'', rfl, hq', -⟩ := F.exists_ends v hv
  have hends : h ++ q :: t = h' ++ q' :: (u ++ q'' :: s ++ '>' :: r) := by simpa using heq
  obtain ⟨-, rfl, -⟩ := hh.append_inj hn hh' hmark (F.isMark_initial q' hq') hends
  exact hq hq'

end

/-! ### Passes -/

namespace Form

/-- The links with a value of the form. -/
def pattern (names : PrefetchLinkSettings) (F : Form) : Pattern := element names F.value

variable {names : PrefetchLinkSettings}

theorem isPlain_pattern (F : Form) : (F.pattern names).isPlain = true := by
  simp [pattern, element, attributeStart, seqs, Pattern.isPlain, F.isPlain, Lexeme.blanks,
    Lexeme.blanks1, many, many1, few, literal]

theorem isSolid_pattern (F : Form) : (F.pattern names).isSolid = true := by
  simp [pattern, element, attributeStart, seqs, Pattern.isSolid, literal]

variable (hn : WellNamed names)

include hn

/-- The links of any form after a pass for one form are those before the pass at
characters that stay. -/
theorem steady (F G : Form) :
    Steady (G.pattern names) (Turned names F) fun _ _ => True where
  solid := by
    intro b h
    obtain ⟨a, ha⟩ := (fits_element_iff.1 h).eq_cons
    cases ha
  fits_kept := by
    intro b b' c ps _ hps
    have hsame : All (SamePart names) ps := fun o n hmem => (hps o n hmem).samePart
    rw [pattern, fits_element_iff, fits_element_iff]
    refine ⟨fun h => ?_, beginsLink_newText hn hsame⟩
    rw [← newText_map_flip]
    exact beginsLink_newText hn (hsame.flip fun _ _ => SamePart.symm) (by rwa [oldText_map_flip])
  not_fits_new := by
    intro b' o n ps hQ _ u v huv hv hfits
    exact linkless_of_turned hn hQ u v _ huv hv (fits_element_iff.1 hfits)
  agree_kept := fun _ _ _ _ => trivial
  agree_swapped := fun _ _ _ _ _ _ => trivial

theorem cuts (F : Form) : Cuts (F.pattern names) (wrapLink names) (Turned names F) where
  cut := by
    intro b w r k h
    obtain ⟨o, v, s, t, c, rfl, ho, hv, hs, hc, hnested⟩ := wrapLink_of_takes h
    obtain ⟨q, u, q', rfl, hq, -⟩ := F.exists_ends v hv
    refine ⟨o ++ [q], nestedOpening names ++ [q], (u ++ [q']).map kept ++
      .swapped (s ++ ['>']) ['>'] :: t.map kept ++ [.swapped c (nestedClosing names)], by simp, ?_,
      by simp, .opening ho hq, ?_⟩
    · rw [hnested]
      simp
    · intro o' n' hmem
      have hcases : o' = s ++ ['>'] ∧ n' = ['>'] ∨ o' = c ∧ n' = nestedClosing names := by
        simpa using hmem
      rcases hcases with ⟨rfl, rfl⟩ | ⟨rfl, rfl⟩
      · refine ⟨.bracket hs, fun b t hfits => ?_⟩
        have hlinkless : Linkless names F (s ++ ['>']) :=
          .append (inner_of_spaces hs).linkless (linkless_of_not_mem (by decide))
        exact hlinkless [] _ t rfl (by simp) (fits_element_iff.1 hfits)
      · refine ⟨.closing hc, fun b t hfits => ?_⟩
        obtain ⟨c', rfl, -⟩ := hc.eq_cons hn
        exact not_beginsLink_closing hn _ (fits_element_iff.1 hfits)
  not_fits_inside := by
    intro b o n u v t hQ huv hu hv hfits
    obtain ⟨c, u, rfl⟩ := List.exists_cons_of_ne_nil hu
    rw [huv] at hQ
    exact linkless_tail_of_turned hn hQ u v t rfl hv (fits_element_iff.1 hfits)

/-- A link that is left after a pass for its form began inside a match. -/
theorem occurs_apply_iff_hides (F : Form) (text : Text) :
    (F.pattern names).Occurs [] ((F.pattern names).replaceAll (wrapLink names) text) ↔
      ∃ m ∈ (F.pattern names).matchesIn text, (F.pattern names).Hides m := by
  obtain ⟨ps, -, hnew, hall, hkept⟩ :=
    (F.cuts hn).exists_pieces (scans_matchesIn F.isPlain_pattern F.isSolid_pattern text)
  rw [replaceAll_eq, ← hnew, (F.steady hn F).occurs_newText_iff hall trivial, hkept]

/-- A pass for one form leaves the links of another alone. -/
theorem occurs_apply_iff_of_ne {F G : Form} (hne : ∀ q ∈ F.initials, q ∉ G.initials)
    (text : Text) :
    (G.pattern names).Occurs [] ((F.pattern names).replaceAll (wrapLink names) text) ↔
      (G.pattern names).Occurs [] text := by
  obtain ⟨ps, hold, hnew, hall, -⟩ :=
    (F.cuts hn).exists_pieces (scans_matchesIn F.isPlain_pattern F.isSolid_pattern text)
  rw [replaceAll_eq, ← hnew, (F.steady hn G).occurs_newText_iff hall trivial, ← hold,
    occurs_oldText_iff (F.steady hn G).solid _ hall]
  intro b o n qs hQ _ u v huv hv hfits
  have hlink := fits_element_iff.1 hfits
  cases u with
  | cons c u =>
      rw [huv] at hQ
      exact linkless_tail_of_turned hn hQ u v _ rfl hv hlink
  | nil =>
      obtain rfl : o = v := huv
      cases hQ with
      | opening hh hq =>
          exact not_beginsLink_opening hn hh (F.isMark_initial _ hq) (hne _ hq) hlink
      | bracket hs =>
          have hlinkless : Linkless names G _ :=
            .append (inner_of_spaces hs).linkless (linkless_of_not_mem (w := ['>']) (by decide))
          exact hlinkless [] _ _ rfl hv hlink
      | closing hc =>
          obtain ⟨c', rfl, -⟩ := hc.eq_cons hn
          exact not_beginsLink_closing hn _ hlink

end Form

end CodeMigration.PrefetchLink
