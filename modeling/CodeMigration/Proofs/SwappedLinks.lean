import CodeMigration.Proofs.NestedLinks
import CodeMigration.Proofs.Preference

/-!
# CodeMigration.Proofs.SwappedLinks

What the two rules for links make of a text of links with other text between them. The rule for
expressions turns the links given by an expression and passes over the others, and the rule for
strings then passes over the nested elements and turns the rest:

```text
<Outer href={a}>A</Outer>    <Outer asChild><Inner href={a}>A</Inner></Outer>
<Outer href="/b">B</Outer>   <Outer asChild><Inner href="/b">B</Inner></Outer>
```

Every stage is the same text with some of its links turned (`written`). A link that is left begins
at the start of a link of the text (`Separate.not_isPrefix`), and its match ends with this link: an
opening and a value end where they must, and of the texts that a closing tag could end the match has
the shortest (`exists_taken_of_link`). So each rule turns its links and no more (`run_written`).
-/

namespace CodeMigration.PrefetchLink

open Pattern

/-! ### Texts of links -/

/-- A link with nothing but its attribute. No closing tag begins in its text. -/
structure Link (names : PrefetchLinkSettings) where
  /-- The value of the attribute. -/
  value : Text
  /-- What stands between the tags. -/
  text : Text
  /-- The value is a string in quotes, or an expression in braces with pairs of braces in it. -/
  isValue : IsQuoted value ∨ IsBraced value
  /-- The text ends at the closing tag of the link. -/
  not_closed : ¬ ('<' :: '/' :: names.outer.toList) <:+: text

/-- A part of a text. -/
inductive Segment (names : PrefetchLinkSettings)
  /-- Any text. -/
  | plain (text : Text)
  /-- A link. -/
  | link (l : Link names)

/-- The opening of a link up to its value, without white space more than needed. -/
def linkOpening (names : PrefetchLinkSettings) : Text :=
  '<' :: names.outer.toList ++ ' ' :: names.linkAttribute.toList ++ ['=']

/-- The closing tag of a link. -/
def linkClosing (names : PrefetchLinkSettings) : Text := '<' :: '/' :: names.outer.toList ++ ['>']

section

variable {names : PrefetchLinkSettings}

/-- The link as it stands in a text. -/
def Link.source (l : Link names) : Text :=
  linkOpening names ++ l.value ++ '>' :: l.text ++ linkClosing names

/-- The nested elements in its place, with the same value and the same text. -/
def Link.nested (l : Link names) : Text :=
  nestedOpening names ++ l.value ++ '>' :: l.text ++ nestedClosing names

/-- The segments one after another, with some of the links turned into nested elements. -/
def written (turned : Link names → Bool) (segs : List (Segment names)) : Text :=
  segs.flatMap fun
    | .plain text => text
    | .link l => if turned l then l.nested else l.source

/-- The text of the segments. -/
abbrev source (segs : List (Segment names)) : Text := written (fun _ => false) segs

/-- The outer component is opened at the start of the links and nowhere else. -/
def Separate (segs : List (Segment names)) : Prop :=
  ∀ u v, source segs = u ++ '<' :: names.outer.toList ++ v →
    ∃ before l after, segs = before ++ .link l :: after ∧ u = source before

theorem written_append (turned : Link names → Bool) (segs segs' : List (Segment names)) :
    written turned (segs ++ segs') = written turned segs ++ written turned segs' :=
  List.flatMap_append

theorem written_cons (turned : Link names → Bool) (seg : Segment names)
    (segs : List (Segment names)) :
    written turned (seg :: segs) = written turned [seg] ++ written turned segs :=
  written_append turned [seg] segs

theorem source_cons (seg : Segment names) (segs : List (Segment names)) :
    source (seg :: segs) = source [seg] ++ source segs := written_cons _ seg segs

@[simp] theorem written_plain (turned : Link names → Bool) (text : Text) :
    written turned [.plain text] = text := by simp [written]

theorem written_link (turned : Link names → Bool) (l : Link names) :
    written turned [.link l] = if turned l then l.nested else l.source := by simp [written]

/-- Whether a link is turned does not show in its first character. -/
theorem exists_written_link (turned : Link names → Bool) (l : Link names) :
    ∃ w, written turned [.link l] = '<' :: w := by
  rw [written_link]
  split
  · exact ⟨_, rfl⟩
  · exact ⟨_, rfl⟩

theorem isPrefix_of_append_bracket {w y z : Text} (hw : '<' ∉ w) (h : w <+: y ++ '<' :: z) :
    w <+: y := by
  obtain ⟨t, ht⟩ := h
  obtain ⟨a, rfl, -⟩ := Text.exists_append_of_not_mem hw ht
  exact ⟨a, rfl⟩

/-- Whether a word without a bracket begins a text does not depend on which links are turned. -/
theorem isPrefix_written {w y : Text} (hw : '<' ∉ w) {turned next : Link names → Bool}
    {segs : List (Segment names)} (h : w <+: y ++ written turned segs) :
    w <+: y ++ written next segs := by
  induction segs generalizing y with
  | nil => exact h
  | cons seg segs ih =>
      rw [written_cons, ← List.append_assoc] at h ⊢
      cases seg with
      | plain text =>
          rw [written_plain] at h ⊢
          exact ih h
      | link l =>
          obtain ⟨z, hz⟩ := exists_written_link turned l
          rw [hz, List.append_assoc] at h
          exact ((isPrefix_of_append_bracket hw h).trans (List.prefix_append _ _)).trans
            (List.prefix_append _ _)

/-! ### Where the outer component is opened -/

theorem opening_linkOpening : Opening names (linkOpening names) :=
  ⟨[' '], [], [], by simp [linkOpening], spaces1_blank, spaces_nil, spaces_nil⟩

theorem closing_linkClosing : Closing names (linkClosing names) :=
  ⟨[], by simp [linkClosing], spaces_nil⟩

theorem Link.source_ne_nil (l : Link names) : l.source ≠ [] := List.cons_ne_nil _ _

theorem Separate.of_cons {seg : Segment names} {segs : List (Segment names)}
    (h : Separate (seg :: segs)) : Separate segs := by
  intro u v huv
  have hwhole : source (seg :: segs) = source [seg] ++ u ++ '<' :: names.outer.toList ++ v := by
    rw [source_cons, huv]
    simp
  obtain ⟨before, l, after, hsegs, hbefore⟩ := h _ v hwhole
  cases before with
  | nil =>
      obtain ⟨rfl, -⟩ := List.cons.inj hsegs
      rw [source, written_link] at hbefore
      exact absurd (List.append_eq_nil_iff.1 hbefore).1 l.source_ne_nil
  | cons first before =>
      obtain ⟨rfl, rfl⟩ := List.cons.inj hsegs
      rw [source_cons seg before] at hbefore
      exact ⟨before, l, after, rfl, List.append_cancel_left hbefore⟩

/-- It is enough to look at the places of a text where the outer component is opened. -/
theorem separate_of_places {segs : List (Segment names)}
    (h : ∀ n < (source segs).length, '<' :: names.outer.toList <+: (source segs).drop n →
      ∃ i l, segs[i]? = some (.link l) ∧ n = (source (segs.take i)).length) : Separate segs := by
  intro u v huv
  rw [List.append_assoc] at huv
  have hlength : u.length < (source segs).length := by simp [huv]
  obtain ⟨i, l, hi, hplace⟩ := h u.length hlength ⟨v, by rw [huv]; simp⟩
  obtain ⟨hlt, hget⟩ := List.getElem?_eq_some_iff.1 hi
  have hsegs : segs = segs.take i ++ .link l :: segs.drop (i + 1) := by
    rw [← hget, ← List.drop_eq_getElem_cons hlt, List.take_append_drop]
  refine ⟨segs.take i, l, segs.drop (i + 1), hsegs, ?_⟩
  rw [← List.take_append_drop i segs, source, written_append] at huv
  exact (List.append_inj_left huv hplace.symm).symm

/-! ### Links that begin -/

theorem BeginsLink.isPrefix {F : Form} {a : Text} (h : BeginsLink names F a) :
    '<' :: names.outer.toList <+: a := by
  obtain ⟨_, v, s, r, rfl, ⟨s', t, u, rfl, -, -, -⟩, -⟩ := h
  exact ⟨s' ++ names.linkAttribute.toList ++ t ++ '=' :: u ++ v ++ s ++ '>' :: r, by simp⟩

/-- No link with a value of the form begins in the first text if the second follows. -/
def Passed (names : PrefetchLinkSettings) (F : Form) (w a : Text) : Prop :=
  ∀ x y, w = x ++ y → y ≠ [] → ¬ BeginsLink names F (y ++ a)

theorem Passed.append {F : Form} {v w a : Text} (hv : Passed names F v (w ++ a))
    (hw : Passed names F w a) : Passed names F (v ++ w) a := by
  intro x y hxy hy
  rcases List.append_eq_append_iff.1 hxy with ⟨z, -, rfl⟩ | ⟨z, rfl, rfl⟩
  · exact hw z y rfl hy
  · by_cases hz : z = []
    · subst hz
      exact hw [] w rfl hy
    · rw [List.append_assoc]
      exact hv x z rfl hz

theorem passed_of_linkless {F : Form} {w : Text} (h : Linkless names F w) (a : Text) :
    Passed names F w a := fun x y hxy hy => h x y a hxy hy

theorem Passed.not_fits {F : Form} {w a b : Text} (h : Passed names F w a) (u v : Text)
    (huv : w = u ++ v) (hv : v ≠ []) : ¬ (F.pattern names).Fits (u.reverse ++ b) (v ++ a) :=
  fun hfits => h u v huv hv (fits_element_iff.1 hfits)

/-- A mark begins the value of a link. -/
theorem Link.exists_value (l : Link names) : ∃ q v, l.value = q :: v ∧ isMark q = true := by
  cases l.isValue with
  | inl h =>
      obtain ⟨q, u, q', hvalue, hq, -⟩ := quoted.exists_ends l.value h
      exact ⟨q, u ++ [q'], hvalue, quoted.isMark_initial q hq⟩
  | inr h =>
      obtain ⟨q, u, q', hvalue, hq, -⟩ := braced.exists_ends l.value h
      exact ⟨q, u ++ [q'], hvalue, braced.isMark_initial q hq⟩

/-- A link begins where one stands. -/
theorem Link.beginsLink {F : Form} {l : Link names} (hl : F.IsValue l.value) (r : Text) :
    BeginsLink names F (l.source ++ r) :=
  ⟨linkOpening names, l.value, [], l.text ++ linkClosing names ++ r, by simp [Link.source],
    opening_linkOpening, hl, spaces_nil, l.text, linkClosing names, r, rfl, closing_linkClosing⟩

/-! ### The match of a link -/

theorem fits_closingTag (b r : Text) : FitsAll (closingTag names) b (linkClosing names ++ r) :=
  fitsAll_iff.2
    ⟨linkClosing names, r, [], rfl, takesAll_closingTag_iff.2 ⟨closing_linkClosing, rfl⟩⟩

theorem eq_linkClosing {c r r' : Text} (hc : Closing names c)
    (heq : c ++ r' = linkClosing names ++ r) : c = linkClosing names ∧ r' = r := by
  obtain ⟨s, rfl, hs⟩ := hc
  have htail : s ++ '>' :: r' = [] ++ '>' :: r := by simpa [linkClosing] using heq
  obtain ⟨rfl, -, rfl⟩ := hs.append_inj spaces_nil (by decide) (by decide) htail
  exact ⟨by simp [linkClosing], rfl⟩

/-- The link that is found at a place. Its text is the shortest one that a closing tag follows. -/
theorem exists_shortest_link {F : Form} {b a : Text} {m : Match}
    (h : (F.pattern names).matchAt? (.between b a) = some m) :
    ∃ o v s t c r k, a = o ++ (v ++ (s ++ '>' :: (t ++ (c ++ r)))) ∧ Opening names o ∧ F.IsValue v ∧
      Spaces s ∧ Closing names c ∧ m = .taken b (o ++ (v ++ (s ++ '>' :: (t ++ c)))) r k ∧
      wrapLink names m = nestedOpening names ++ v ++ '>' :: t ++ nestedClosing names ∧
      ∀ x y, t = x ++ y → y ≠ [] →
        ¬ FitsAll (closingTag names) (x.reverse ++ ((o ++ (v ++ (s ++ ['>']))).reverse ++ b))
          (y ++ (c ++ r)) := by
  have hpattern : F.pattern names = seqs ((openingTag names ++
      [.group valueGroup F.value, Lexeme.blanks, .literal ">"]) ++
        .group textGroup (.few .full) :: closingTag names) := by
    rw [Form.pattern, element_eq]
    simp
  rw [hpattern] at h
  obtain ⟨u, t, c, r, k, k', rfl, hfront, hback, rfl, hshortest⟩ := exists_shortest_of_matchAt?
    (by simp [openingTag, attributeStart, Pattern.isPlain, F.isPlain, Lexeme.blanks, Lexeme.blanks1,
      many, many1, literal])
    (by simp [closingTag, Pattern.isPlain, Lexeme.blanks, many, literal]) h
  obtain ⟨hc, rfl⟩ := takesAll_closingTag_iff.1 hback
  obtain ⟨o, w, k₁, k₂, rfl, hopening, hvalue, rfl⟩ := takesAll_append.1 hfront
  obtain ⟨ho, rfl⟩ := takesAll_openingTag_iff.1 hopening
  simp only [takesAll_group_cons, Lexeme.takesAll_blanks_cons, takesAll_literal_cons, F.takes_iff,
    takesAll_nil] at hvalue
  obtain ⟨v, _, _, _, rfl, ⟨hv, rfl⟩, ⟨s, _, rfl, hs, _, rfl, rfl, rfl⟩, rfl⟩ := hvalue
  refine ⟨o, v, s, t, c, r, _, by simp, ho, hv, hs, hc, by simp; rfl, ?_, hshortest⟩
  simp only [List.nil_append, List.append_nil]
  rw [wrapLink, Match.group_taken (by decide), Match.group_taken_cons (by decide) (by decide),
    Match.group_taken (by decide), nestedOpening, nestedClosing]
  simp

/-! ### Passes -/

/-- Is the link given by an expression? -/
def Link.isExpression (l : Link names) : Bool := l.value.head? == some '\x7b'

theorem Link.isBraced {l : Link names} (h : l.isExpression = true) : IsBraced l.value := by
  cases l.isValue with
  | inl hquoted =>
      obtain ⟨q, u, q', hvalue, hq, -⟩ := quoted.exists_ends l.value hquoted
      rw [isExpression, hvalue] at h
      obtain rfl : q = '\x7b' := by simpa using h
      exact absurd hq (by decide)
  | inr hbraced => exact hbraced

theorem Link.isQuoted {l : Link names} (h : l.isExpression = false) : IsQuoted l.value := by
  cases l.isValue with
  | inl hquoted => exact hquoted
  | inr hbraced =>
      obtain ⟨u, hvalue, -⟩ := hbraced
      rw [isExpression, hvalue] at h
      exact absurd h (by simp)

/-- A rule for links of a form turns the links that `next` has more than `turned`. -/
structure Turns (F : Form) (turned next : Link names → Bool) : Prop where
  /-- A turned link stays. -/
  of_turned : ∀ l, turned l = true → next l = true
  /-- A link that gets turned has a value of the form. -/
  isValue : ∀ l, turned l = false → next l = true → F.IsValue l.value
  /-- No value of the form begins like that of a link that is left. -/
  of_left : ∀ l, next l = false → ∀ q ∈ F.initials, l.value.head? ≠ some q

section

variable (hn : WellNamed names)

include hn

/-! ### Where no link begins -/

theorem bracket_not_mem_outer : '<' ∉ names.outer.toList :=
  (inner_of_isNameChar hn.outer.2).bracket_not_mem

/-- The outer component is opened neither in what stands between links nor in a link behind its
start. -/
theorem Separate.not_isPrefix {seg : Segment names} {segs : List (Segment names)}
    (h : Separate (seg :: segs)) {x y : Text} (hxy : source [seg] = x ++ y) (hy : y ≠ [])
    (hx : ∀ l, seg = .link l → x ≠ []) (turned : Link names → Bool) :
    ¬ '<' :: names.outer.toList <+: y ++ written turned segs := by
  intro hprefix
  obtain ⟨c, y, rfl⟩ := List.exists_cons_of_ne_nil hy
  obtain ⟨rfl, htail⟩ := List.cons_prefix_cons.1 hprefix
  obtain ⟨v, hv⟩ : names.outer.toList <+: y ++ source segs :=
    isPrefix_written (bracket_not_mem_outer hn) htail
  have hwhole : source (seg :: segs) = x ++ '<' :: names.outer.toList ++ v := by
    rw [source_cons, hxy, List.append_assoc, List.append_assoc, List.cons_append, List.cons_append,
      hv]
  obtain ⟨before, l, after, hsegs, hbefore⟩ := h x v hwhole
  cases before with
  | nil =>
      obtain ⟨rfl, -⟩ := List.cons.inj hsegs
      exact hx l rfl hbefore
  | cons first before =>
      obtain ⟨rfl, rfl⟩ := List.cons.inj hsegs
      -- The start of a later link would lie inside the segment.
      rw [source_cons, hxy] at hbefore
      have hlength := congrArg List.length hbefore
      simp only [List.length_append, List.length_cons] at hlength
      omega

/-- No link begins where the outer component is not opened. -/
theorem Separate.passed_plain {F : Form} {text : Text} {segs : List (Segment names)}
    (h : Separate (.plain text :: segs)) (turned : Link names → Bool) :
    Passed names F text (written turned segs) := by
  intro x y hxy hy hlink
  refine h.not_isPrefix hn (x := x) ?_ hy ?_ turned hlink.isPrefix
  · rw [source, written_plain, hxy]
  · intro l hl
    cases hl

/-- No link of one form begins in a link with a value of another. -/
theorem Separate.passed_source {F : Form} {l : Link names} {segs : List (Segment names)}
    (h : Separate (.link l :: segs)) (hother : ∀ q ∈ F.initials, l.value.head? ≠ some q)
    (turned : Link names → Bool) : Passed names F l.source (written turned segs) := by
  intro x y hxy hy hlink
  by_cases hx : x = []
  · subst hx
    obtain rfl : l.source = y := hxy
    obtain ⟨q, v, hvalue, hq⟩ := l.exists_value
    have hnot : q ∉ F.initials := fun hmem => hother q hmem (by rw [hvalue]; rfl)
    have hopened : BeginsLink names F (linkOpening names ++ [q] ++
        (v ++ '>' :: l.text ++ linkClosing names ++ written turned segs)) := by
      simpa [Link.source, hvalue] using hlink
    exact not_beginsLink_opening hn opening_linkOpening hq hnot hopened
  · refine h.not_isPrefix hn ?_ hy (fun _ _ => hx) turned hlink.isPrefix
    rw [source, written_link]
    exact hxy

/-- No link begins in nested elements. -/
theorem Separate.passed_nested {F : Form} {l : Link names} {segs : List (Segment names)}
    (h : Separate (.link l :: segs)) (turned : Link names → Bool) :
    Passed names F l.nested (written turned segs) := by
  have hinside : Passed names F (l.value ++ '>' :: l.text)
      (nestedClosing names ++ written turned segs) := by
    intro x y hxy hy hlink
    -- What opens the outer component there does so in the link as well.
    obtain ⟨c, y, rfl⟩ := List.exists_cons_of_ne_nil hy
    obtain ⟨rfl, htail⟩ := List.cons_prefix_cons.1 hlink.isPrefix
    have hopened : names.outer.toList <+: y :=
      isPrefix_of_append_bracket (bracket_not_mem_outer hn) htail
    have hvalue : l.value ++ '>' :: l.text = x ++ '<' :: y := hxy
    have hsource : source [.link l] =
        linkOpening names ++ x ++ ('<' :: y ++ linkClosing names) := by
      rw [source, written_link]
      show linkOpening names ++ l.value ++ '>' :: l.text ++ linkClosing names = _
      rw [List.append_assoc (linkOpening names), hvalue]
      simp
    refine h.not_isPrefix hn hsource (by simp) (by simp [linkOpening]) turned ?_
    rw [List.append_assoc, List.cons_append]
    exact List.cons_prefix_cons.2 ⟨rfl, hopened.trans (List.prefix_append _ _)⟩
  have hnested : l.nested =
      nestedOpening names ++ (l.value ++ '>' :: l.text ++ nestedClosing names) := by
    simp [Link.nested]
  rw [hnested]
  refine .append (passed_of_linkless (linkless_nestedOpening hn) _) (.append ?_ ?_)
  · exact hinside
  · exact passed_of_linkless (linkless_nestedClosing hn) _

/-! ### Where a match ends -/

/-- The text of a link is the shortest one that a closing tag can follow. -/
theorem Link.eq_text_of_shortest {l : Link names} {t c b r r' : Text} (hc : Closing names c)
    (heq : l.text ++ (linkClosing names ++ r) = t ++ (c ++ r'))
    (hshortest : ∀ x y, t = x ++ y → y ≠ [] →
      ¬ FitsAll (closingTag names) (x.reverse ++ b) (y ++ (c ++ r'))) :
    t = l.text ∧ c = linkClosing names ∧ r' = r := by
  rcases List.append_eq_append_iff.1 heq with ⟨z, rfl, htail⟩ | ⟨z, htext, htail⟩
  · by_cases hz : z = []
    · subst hz
      exact ⟨List.append_nil _, eq_linkClosing hc htail.symm⟩
    · refine absurd ?_ (hshortest l.text z rfl hz)
      rw [← htail]
      exact fits_closingTag _ r
  · cases z with
    | nil => exact ⟨by simpa using htext.symm, eq_linkClosing hc htail⟩
    | cons d z =>
        -- The closing tag would begin in the text, and then it would lie there.
        obtain ⟨s, rfl, -⟩ := hc
        obtain ⟨rfl, hname⟩ := List.cons.inj htail
        have hword : '<' ∉ '/' :: names.outer.toList := by
          simpa using bracket_not_mem_outer hn
        have hprefix : '/' :: names.outer.toList <+: z := by
          refine isPrefix_of_append_bracket hword (z := '/' :: names.outer.toList ++ ['>'] ++ r) ?_
          exact ⟨s ++ '>' :: r', by simpa [linkClosing] using hname⟩
        obtain ⟨z', rfl⟩ := hprefix
        exact absurd ⟨t, z', by simp [htext]⟩ l.not_closed

/-- The opening, the value and the bracket of a link are clear from the text. -/
theorem Link.eq_of_source_append {F : Form} (hF : F.PrefixFree)
    {l : Link names} (hl : F.IsValue l.value) {o v s a r : Text} (ho : Opening names o)
    (hv : F.IsValue v) (hs : Spaces s) (heq : l.source ++ r = o ++ (v ++ (s ++ '>' :: a))) :
    o = linkOpening names ∧ v = l.value ∧ s = [] ∧ l.text ++ (linkClosing names ++ r) = a := by
  obtain ⟨q, w, hlvalue, hq⟩ := l.exists_value
  obtain ⟨q', u, q'', hvalue, hq', -⟩ := F.exists_ends v hv
  have hopenings : linkOpening names ++ q :: (w ++ '>' :: l.text ++ linkClosing names ++ r) =
      o ++ q' :: (u ++ [q''] ++ (s ++ '>' :: a)) := by
    simpa [Link.source, hlvalue, hvalue] using heq
  obtain ⟨rfl, -, -⟩ :=
    opening_linkOpening.append_inj hn ho hq (F.isMark_initial q' hq') hopenings
  have hvalues : l.value ++ ([] ++ '>' :: (l.text ++ (linkClosing names ++ r))) =
      v ++ (s ++ '>' :: a) := by
    simpa [Link.source] using heq
  obtain rfl := hF _ _ _ _ hl hv hvalues
  obtain ⟨rfl, -, ha⟩ :=
    spaces_nil.append_inj hs (by decide) (by decide) (List.append_cancel_left hvalues)
  exact ⟨rfl, rfl, rfl, ha⟩

/-- A rule whose form the value of a link has takes this link at its start, and turns it. -/
theorem exists_taken_of_link {F : Form} (hF : F.PrefixFree)
    {l : Link names} (hl : F.IsValue l.value) {b r : Text} {m : Match}
    (h : (F.pattern names).matchAt? (.between b (l.source ++ r)) = some m) :
    ∃ k, m = .taken b l.source r k ∧ wrapLink names m = l.nested := by
  obtain ⟨o, v, s, t, c, r', k, heq, ho, hv, hs, hc, rfl, hnested, hshortest⟩ :=
    exists_shortest_link h
  obtain ⟨rfl, rfl, rfl, hrest⟩ := l.eq_of_source_append hn hF hl ho hv hs heq
  obtain ⟨rfl, rfl, rfl⟩ := l.eq_text_of_shortest hn hc hrest hshortest
  exact ⟨k, by simp [Link.source], hnested⟩

/-! ### The two passes -/

/-- A link with a value of the form gives way to nested elements. -/
theorem exists_spliceFrom_link {F : Form} (hF : F.PrefixFree) {l : Link names}
    (hl : F.IsValue l.value) {b a : Text} {ms : List Match}
    (hscan : Scans (F.pattern names) b (l.source ++ a) ms) :
    ∃ ms', Scans (F.pattern names) (l.source.reverse ++ b) a ms' ∧
      spliceFrom (wrapLink names) (.between b (l.source ++ a)) ms =
        l.nested ++ spliceFrom (wrapLink names) (.between (l.source.reverse ++ b) a) ms' := by
  obtain ⟨w, r, k, ms', hsplit, -, hmatch, rfl, hrest⟩ :=
    hscan.of_fits (fits_element_iff.2 (l.beginsLink hl a))
  obtain ⟨k', htaken, hwrapped⟩ := exists_taken_of_link hn hF hl hmatch
  obtain rfl : w = l.source := by simpa using congrArg Match.text htaken
  obtain rfl := List.append_cancel_left hsplit
  exact ⟨ms', hrest, by rw [spliceFrom_found, hwrapped]⟩

theorem spliceFrom_written {F : Form} (hF : F.PrefixFree) {turned next : Link names → Bool}
    (hturns : Turns F turned next) {segs : List (Segment names)} (hsegs : Separate segs) {b : Text}
    {ms : List Match} (hscan : Scans (F.pattern names) b (written turned segs) ms) :
    spliceFrom (wrapLink names) (.between b (written turned segs)) ms = written next segs := by
  induction segs generalizing b ms with
  | nil =>
      obtain rfl := hscan.eq_nil
      rfl
  | cons seg segs ih =>
      -- A segment that no link of the form begins in stays.
      have hkept : ∀ {w}, written turned [seg] = w → written next [seg] = w →
          Passed names F w (written turned segs) →
          spliceFrom (wrapLink names) (.between b (written turned (seg :: segs))) ms =
            written next (seg :: segs) := by
        intro w hw hw' hpassed
        rw [written_cons, hw] at hscan
        rw [written_cons turned, hw, hscan.spliceFrom_append hpassed.not_fits,
          ih hsegs.of_cons (hscan.of_append hpassed.not_fits), written_cons next, hw']
      cases seg with
      | plain text =>
          exact hkept (written_plain _ _) (written_plain _ _) (hsegs.passed_plain hn turned)
      | link l =>
          cases hturned : turned l with
          | true =>
              have hnext := hturns.of_turned l hturned
              exact hkept (by simp [written_link, hturned]) (by simp [written_link, hnext])
                (hsegs.passed_nested hn turned)
          | false =>
              have hsource : written turned [.link l] = l.source := by simp [written_link, hturned]
              cases hnext : next l with
              | false =>
                  exact hkept hsource (by simp [written_link, hnext])
                    (hsegs.passed_source hn (hturns.of_left l hnext) turned)
              | true =>
                  have hnested : written next [.link l] = l.nested := by simp [written_link, hnext]
                  rw [written_cons, hsource] at hscan
                  obtain ⟨ms', hrest, hsplice⟩ :=
                    exists_spliceFrom_link hn hF (hturns.isValue l hturned hnext) hscan
                  rw [written_cons turned, hsource, hsplice, ih hsegs.of_cons hrest,
                    written_cons next, hnested]

/-- One pass over a text of links. -/
theorem run_written {F : Form} (hF : F.PrefixFree) {id : String} {turned next : Link names → Bool}
    (hturns : Turns F turned next) {segs : List (Segment names)} (hsegs : Separate segs) :
    (F.rule names id).toRule.run (written turned segs) = written next segs := by
  rw [Form.run_rule, replaceAll_eq]
  exact spliceFrom_written hn hF hturns hsegs
    (scans_matchesIn F.isPlain_pattern F.isSolid_pattern _)

/-- Of a text of links the two rules turn each link into nested elements with the same value and
the same text, and they leave everything else as it is. -/
theorem run_source {segs : List (Segment names)} (hsegs : Separate segs) :
    (stringRule names).toRule.run ((expressionRule names).toRule.run (source segs)) =
      written (fun _ => true) segs := by
  have hexpressions : Turns braced (fun _ => false) (fun l : Link names => l.isExpression) :=
    { of_turned := fun l h => by cases h
      isValue := fun l _ h => l.isBraced h
      of_left := fun l h q hq hvalue => by
        obtain rfl : q = '\x7b' := List.mem_singleton.1 hq
        rw [Link.isExpression, hvalue] at h
        exact absurd h (by simp) }
  have hstrings : Turns quoted (fun l : Link names => l.isExpression) fun _ => true :=
    { of_turned := fun _ _ => rfl
      isValue := fun l h _ => l.isQuoted h
      of_left := fun l h => by cases h }
  have hfirst : (expressionRule names).toRule.run (source segs) = written Link.isExpression segs :=
    run_written hn prefixFree_braced hexpressions hsegs
  rw [hfirst]
  exact run_written hn prefixFree_quoted hstrings hsegs

end

end

/-- A link given by an expression with a pair of braces in it. -/
def nestedBracesLink : Link {} where
  value := "\x7bto(\x7b\x7d)\x7d".toList
  text := "A > B".toList
  isValue := by
    refine .inr ⟨"to(\x7b\x7d)".toList, by decide +kernel, ?_⟩
    rw [show braces "to(\x7b\x7d)".toList = ['\x7b', '\x7d'] by decide +kernel]
    exact .cons .nil
  not_closed := by decide +kernel

/-- A link given by a string with a bracket and the other quote in it, with a text of several
lines. -/
def severalLinesLink : Link {} where
  value := "'/b\">'".toList
  text := "\n  B\n".toList
  isValue := .inl ⟨'\'', "/b\">".toList, by decide +kernel, by decide, by decide +kernel⟩
  not_closed := by decide +kernel

/-- Links of both forms, and a closing tag of its own. -/
def mixedLinks : List (Segment {}) :=
  [.plain "<p>".toList, .link nestedBracesLink, .link severalLinesLink,
   .plain "</BreadcrumbLink>".toList]

theorem run_source_mixedLinks :
    source mixedLinks =
      ("<p><BreadcrumbLink href=\x7bto(\x7b\x7d)\x7d>A > B</BreadcrumbLink>" ++
        "<BreadcrumbLink href='/b\">'>\n  B\n</BreadcrumbLink></BreadcrumbLink>").toList ∧
    Separate mixedLinks ∧
    (stringRule {}).toRule.run ((expressionRule {}).toRule.run (source mixedLinks)) =
      ("<p><BreadcrumbLink asChild><PrefetchLink href=\x7bto(\x7b\x7d)\x7d>A > B</PrefetchLink>" ++
        "</BreadcrumbLink><BreadcrumbLink asChild><PrefetchLink href='/b\">'>\n  B\n" ++
        "</PrefetchLink></BreadcrumbLink></BreadcrumbLink>").toList := by
  have hsegs : Separate mixedLinks := by
    have hplaces : ∀ n < (source mixedLinks).length,
        '<' :: ({} : PrefetchLinkSettings).outer.toList <+: (source mixedLinks).drop n →
          n = 3 ∨ n = 55 := by
      decide +kernel
    refine separate_of_places fun n hn hopened => ?_
    rcases hplaces n hn hopened with rfl | rfl
    · exact ⟨1, nestedBracesLink, rfl, by decide +kernel⟩
    · exact ⟨2, severalLinesLink, rfl, by decide +kernel⟩
  refine ⟨by decide +kernel, hsegs, ?_⟩
  rw [run_source wellNamed_default hsegs]
  decide +kernel

end CodeMigration.PrefetchLink
