import CodeMigration.Migration.TypedClient
import CodeMigration.Proofs.References
import Mathlib.Data.List.Basic

/-!
# CodeMigration.Proofs.CallSites

The rule for calls of the factory, on its own. A declaration that calls the factory gives
way to two lines: the first declares the raw value, which the rule leaves alone, and the
second calls the wrapper and not the factory. So there is nothing left for the rule in what
it has made of a text (`fires_run_callSite`).

The search through the result goes along with the search through the text. What could
break that is a declaration that begins in what stays and runs into a line that the rule
has put in. It would have to go on over a line break behind which another declaration
begins, and no declaration does (`never_broken`).
-/

namespace CodeMigration.TypedClient

open Lexeme Pattern

/-! ### Declarations -/

/-- The words that begin a declaration. -/
def keywords : List Text := ["const".toList, "let".toList, "var".toList]

/-- Blanks as they stand inside a line. -/
def LineBlanks (i : Text) : Prop := ∀ c ∈ i, c ∈ [' ', '\t']

/-- Nothing, or the word that awaits a value with space behind it. -/
def AwaitWord (a : Text) : Prop := a = [] ∨ ∃ s, a = "await".toList ++ s ∧ Spaces1 s

/-- The part of a declaration up to the sign of equality. -/
structure Header where
  /-- The indentation. -/
  indent : Text
  /-- The word that begins the declaration. -/
  keyword : Text
  /-- The space behind the keyword. -/
  gap : Text
  /-- The declared name. -/
  name : Text
  /-- The space behind the name. -/
  nameGap : Text
  lineBlanks_indent : LineBlanks indent
  keyword_mem : keyword ∈ keywords
  spaces1_gap : Spaces1 gap
  identifier_name : Identifier name
  spaces_nameGap : Spaces nameGap

/-- The text of the header. -/
def Header.text (h : Header) : Text :=
  h.indent ++ (h.keyword ++ (h.gap ++ (h.name ++ h.nameGap ++ ['='])))

/-- The same header with another name and single blanks. -/
def Header.rename (h : Header) {name : Text} (hname : Identifier name) : Header where
  indent := h.indent
  keyword := h.keyword
  gap := [' ']
  name := name
  nameGap := [' ']
  lineBlanks_indent := h.lineBlanks_indent
  keyword_mem := h.keyword_mem
  spaces1_gap := spaces1_blank
  identifier_name := hname
  spaces_nameGap := spaces1_blank.1

/-- A call behind the sign of equality, without its semicolon. -/
structure Call (callee : Text) where
  /-- The space before the call. -/
  gap : Text
  /-- The word that awaits the value. -/
  await : Text
  /-- The arguments of the call. -/
  arguments : Text
  spaces_gap : Spaces gap
  awaitWord_await : AwaitWord await
  arguments_free : ∀ c ∈ arguments, c ∉ ['(', ')', '\n']

/-- The text of the call. -/
def Call.text {callee : Text} (c : Call callee) : Text :=
  c.gap ++ (c.await ++ (callee ++ '(' :: (c.arguments ++ [')'])))

/-- The same call behind a single blank. -/
def Call.spaced {callee : Text} (c : Call callee) : Call callee :=
  { c with gap := [' '], spaces_gap := spaces1_blank.1 }

/-- The semicolon behind a declaration, if there is one. -/
def Semicolon (e : Text) : Prop := e = [] ∨ e = [';']

theorem takes_keyword_iff {b w r : Text} {k : Captures} :
    (alts [.literal "const", .literal "let", .literal "var"]).Takes b w r k ↔
      w ∈ keywords ∧ k = [] := by
  simp only [alts, takes_alt_iff, literal, takes_word_iff, keywords, List.mem_cons,
    List.not_mem_nil, or_false, ← or_and_right]

theorem takes_lineBlanks_iff {b w r : Text} {k : Captures} :
    lineBlanks.Takes b w r k ↔ LineBlanks w ∧ k = [] := by
  simp only [lineBlanks, many, takes_run_iff, CharSet.contains_ofList, LineBlanks]

theorem takes_arguments_iff {b w r : Text} {k : Captures} :
    (many (.noneOf ['(', ')', '\n'])).Takes b w r k ↔
      (∀ c ∈ w, c ∉ ['(', ')', '\n']) ∧ k = [] := by
  simp only [many, takes_run_iff, CharSet.contains_noneOf]

theorem takes_semicolon_iff {b w r : Text} {k : Captures} :
    (Pattern.optional (.literal ";")).Takes b w r k ↔ Semicolon w ∧ k = [] := by
  simp only [takes_optional_iff, literal, takes_word_iff, Semicolon, ← or_and_right]
  exact and_congr_left fun _ => or_comm

theorem takes_await {b w r : Text} {k : Captures}
    (h : (Pattern.optional (.group awaitGroup (.seq (.literal "await") blanks1))).Takes b w r k) :
    AwaitWord w ∧ (w = [] ∧ k = [] ∨
      k = [(awaitGroup, .between b (w ++ r), .between (w.reverse ++ b) r)]) := by
  simp only [takes_optional_iff, takes_group_iff, takes_seq_iff, literal, takes_word_iff,
    takes_blanks1_iff] at h
  rcases h with ⟨_, ⟨_, s, _, _, rfl, ⟨rfl, rfl⟩, ⟨hs, rfl⟩, rfl⟩, rfl⟩ | ⟨rfl, rfl⟩
  · exact ⟨.inr ⟨s, rfl, hs⟩, .inr rfl⟩
  · exact ⟨.inl rfl, .inl ⟨rfl, rfl⟩⟩

/-- What a declaration takes, and the groups that it captures. -/
theorem takes_declaration {factory b w r : Text} {k : Captures}
    (h : (declaration factory).Takes b w r k) :
    Anchor.lineStart.holds (.between b (w ++ r)) = true ∧
      ∃ (d : Header) (c : Call factory) (e : Text),
        w = d.text ++ (c.text ++ e) ∧ Semicolon e ∧
        (Match.taken b w r k).group indentGroup = d.indent ∧
        (Match.taken b w r k).group keywordGroup = d.keyword ∧
        (Match.taken b w r k).group nameGroup = d.name ∧
        (Match.taken b w r k).group awaitGroup = c.await ∧
        (Match.taken b w r k).group argumentsGroup = c.arguments ∧
        (Match.taken b w r k).group semicolonGroup = e := by
  simp only [declaration, takes_seqs_iff, lineStart, takesAll_look_cons, takesAll_group_cons,
    takesAll_blanks1_cons, takesAll_blanks_cons, takesAll_literal_cons, takes_identifier_iff,
    takes_keyword_iff, takes_lineBlanks_iff] at h
  obtain ⟨hline, i, _, _, _, rfl, ⟨hi, rfl⟩, ⟨q, _, _, _, rfl, ⟨hq, rfl⟩, ⟨s, _, rfl, hs, x, _, _,
    _, rfl, ⟨hx, rfl⟩, ⟨t, _, rfl, ht, _, rfl, s', _, rfl, hs', hcall⟩, rfl⟩, rfl⟩, rfl⟩ := h
  obtain ⟨a, _, l, _, rfl, ha, hcall, rfl⟩ := hcall
  simp only [takesAll_word_cons, takesAll_literal_cons, takesAll_group_cons, takesAll_nil,
    takes_arguments_iff, takes_semicolon_iff] at hcall
  obtain ⟨_, rfl, _, rfl, g, _, _, _, rfl, ⟨hg, rfl⟩, ⟨_, rfl, e, _, _, _, rfl, ⟨he, rfl⟩,
    ⟨rfl, rfl⟩, rfl⟩, rfl⟩ := hcall
  obtain ⟨haw, hl⟩ := takes_await ha
  refine ⟨hline, ⟨i, q, s, x, t, hi, hq, hs, hx, ht⟩, ⟨s', a, g, hs', haw, hg⟩, e,
    by simp [Header.text, Call.text], he, ?_⟩
  -- The groups are captured in order, so each of them is under those behind it.
  rcases hl with ⟨rfl, rfl⟩ | rfl
  · refine ⟨?_, ?_, ?_, ?_, ?_, ?_⟩ <;>
      simp (disch := decide) only [Match.group_taken_cons, Match.group_taken, List.append_assoc,
        List.cons_append, List.nil_append]
    rfl
  · refine ⟨?_, ?_, ?_, ?_, ?_, ?_⟩ <;>
      simp (disch := decide) only [Match.group_taken_cons, Match.group_taken, List.append_assoc,
        List.cons_append, List.nil_append]

theorem fitsAll_await_cons {b a : Text} {ps : List Pattern} :
    FitsAll (Pattern.optional (.group awaitGroup (.seq (.literal "await") blanks1)) :: ps) b a ↔
      ∃ w r, a = w ++ r ∧ AwaitWord w ∧ FitsAll ps (w.reverse ++ b) r := by
  simp only [FitsAll, takes_optional_iff, takes_group_iff, takes_seq_iff, literal, takes_word_iff,
    takes_blanks1_iff]
  constructor
  · rintro ⟨w, r, k, ha, ⟨_, ⟨_, s, _, _, rfl, ⟨rfl, -⟩, ⟨hs, -⟩, -⟩, -⟩ | ⟨rfl, -⟩, hps⟩
    · exact ⟨_, r, ha, .inr ⟨s, rfl, hs⟩, hps⟩
    · exact ⟨[], r, ha, .inl rfl, hps⟩
  · rintro ⟨w, r, ha, rfl | ⟨s, rfl, hs⟩, hps⟩
    · exact ⟨[], r, [], ha, .inr ⟨rfl, rfl⟩, hps⟩
    · exact ⟨_, r, _, ha, .inl ⟨[], ⟨_, s, [], [], rfl, ⟨rfl, rfl⟩, ⟨hs, rfl⟩, rfl⟩, rfl⟩, hps⟩

theorem fits_declaration_iff {factory b a : Text} :
    (declaration factory).Fits b a ↔ Anchor.lineStart.holds (.between b a) = true ∧
      ∃ (d : Header) (c : Call factory) (r : Text), a = d.text ++ (c.text ++ r) := by
  constructor
  · rintro ⟨w, r, k, rfl, h⟩
    obtain ⟨hline, d, c, e, rfl, -⟩ := takes_declaration h
    exact ⟨hline, d, c, e ++ r, by simp⟩
  · rintro ⟨hline, d, c, r, rfl⟩
    rw [declaration, fits_seqs_iff]
    simp only [lineStart, fitsAll_look_cons, fitsAll_group_cons, fitsAll_blanks1_cons,
      fitsAll_identifier_cons, fitsAll_blanks_cons, fitsAll_literal_cons, fitsAll_word_cons,
      fitsAll_await_cons, fitsAll_cons_of_free fun _ _ _ _ => takes_lineBlanks_iff,
      fitsAll_cons_of_free fun _ _ _ _ => takes_keyword_iff,
      fitsAll_cons_of_free fun _ _ _ _ => takes_arguments_iff,
      fitsAll_cons_of_free fun _ _ _ _ => takes_semicolon_iff, fitsAll_nil, and_true]
    exact ⟨hline, d.indent, _, by simp [Header.text, Call.text], d.lineBlanks_indent,
      d.keyword, _, rfl, d.keyword_mem, d.gap, _, rfl, d.spaces1_gap, d.name, _, rfl,
      d.identifier_name, d.nameGap, _, rfl, d.spaces_nameGap, _, rfl, c.gap, _, rfl, c.spaces_gap,
      c.await, _, rfl, c.awaitWord_await, _, rfl, _, rfl, c.arguments, ')' :: r, rfl,
      c.arguments_free, r, rfl, [], r, rfl, .inl rfl⟩

theorem isPlain_declaration (factory : Text) : (declaration factory).isPlain = true := by
  simp [declaration, seqs, Pattern.isPlain, identifier, blanks, blanks1, lineBlanks, lineStart,
    many, many1, literal, alts, Pattern.optional]

theorem isSolid_declaration (factory : Text) : (declaration factory).isSolid = true := by
  simp [declaration, seqs, Pattern.isSolid, literal]

/-! ### Declarations are clear from the text -/

theorem identifier_of_mem_keywords {q : Text} (h : q ∈ keywords) : Identifier q := by
  simp only [keywords, List.mem_cons, List.not_mem_nil, or_false] at h
  rcases h with rfl | rfl | rfl
  · exact ⟨'c', "onst".toList, rfl, by decide, List.all_eq_true.1 (by decide)⟩
  · exact ⟨'l', "et".toList, rfl, by decide, List.all_eq_true.1 (by decide)⟩
  · exact ⟨'v', "ar".toList, rfl, by decide, List.all_eq_true.1 (by decide)⟩

theorem identifier_await : Identifier "await".toList :=
  ⟨'a', "wait".toList, rfl, by decide, List.all_eq_true.1 (by decide)⟩

theorem LineBlanks.spaces {i : Text} (h : LineBlanks i) : Spaces i := by
  intro c hc
  have := h c hc
  simp only [List.mem_cons, List.not_mem_nil, or_false] at this
  rcases this with rfl | rfl <;> decide

theorem LineBlanks.not_mem_newline {i : Text} (h : LineBlanks i) : '\n' ∉ i := fun hmem =>
  absurd (h _ hmem) (by decide)

/-- Where a header ends is clear from the text, and so are all of its parts. -/
theorem Header.eq_of_append {d d' : Header} {r r' : Text} (h : d.text ++ r = d'.text ++ r') :
    d = d' ∧ r = r' := by
  have hkeyword : d.indent ++ (d.keyword ++ (d.gap ++ (d.name ++ (d.nameGap ++ '=' :: r)))) =
      d'.indent ++ (d'.keyword ++ (d'.gap ++ (d'.name ++ (d'.nameGap ++ '=' :: r')))) := by
    simpa [Header.text] using h
  obtain ⟨hindent, hgap⟩ := d.lineBlanks_indent.spaces.append_identifier_inj
    d'.lineBlanks_indent.spaces (identifier_of_mem_keywords d.keyword_mem)
    (identifier_of_mem_keywords d'.keyword_mem) hkeyword
  obtain ⟨hword, hname⟩ := d.spaces1_gap.word_inj d'.spaces1_gap
    (identifier_of_mem_keywords d.keyword_mem) (identifier_of_mem_keywords d'.keyword_mem) hgap
  obtain ⟨hspace, hstop⟩ := d.spaces1_gap.1.append_identifier_inj d'.spaces1_gap.1
    d.identifier_name d'.identifier_name hname
  rw [← List.append_assoc, ← List.append_assoc] at hstop
  obtain ⟨hname, hspace', -, hrest⟩ := stop_inj d.identifier_name.forall_mem
    d'.identifier_name.forall_mem d.spaces_nameGap d'.spaces_nameGap (by decide) (by decide) hstop
  cases d
  cases d'
  simp_all

theorem Header.append_inj {d d' : Header} {r r' : Text} (h : d.text ++ r = d'.text ++ r') :
    d.name = d'.name ∧ d.text = d'.text ∧ r = r' := by
  obtain ⟨rfl, rfl⟩ := Header.eq_of_append h
  exact ⟨rfl, rfl, rfl⟩

/-- The first word of a call, and what is behind it. -/
theorem Call.exists_word {callee : Text} (hcallee : Identifier callee) (c : Call callee) (r : Text) :
    ∃ x u, Identifier x ∧ c.text ++ r = c.gap ++ (x ++ u) := by
  rcases c.awaitWord_await with h | ⟨s, h, -⟩
  · exact ⟨callee, '(' :: (c.arguments ++ ')' :: r), hcallee, by simp [Call.text, h]⟩
  · exact ⟨_, s ++ (callee ++ '(' :: (c.arguments ++ ')' :: r)), identifier_await,
      by simp [Call.text, h]⟩

/-- A call is not the word that awaits one. -/
theorem call_ne_await {x s u v : Text} (hx : Identifier x) (hs : Spaces1 s) :
    x ++ '(' :: u ≠ "await".toList ++ (s ++ v) := by
  intro heq
  obtain ⟨c, t, hc, hspace, hpart⟩ := hs.exists_cons v
  rw [hc] at heq
  obtain ⟨-, rfl, -⟩ := hx.append_inj identifier_await (by decide) hpart heq
  exact absurd hspace (by decide)

/-- Whether a call is awaited is clear from the text, and so is what it calls. -/
theorem AwaitWord.append_inj {x y a a' u u' : Text} (hx : Identifier x) (hy : Identifier y)
    (ha : AwaitWord a) (ha' : AwaitWord a') (h : a ++ (x ++ '(' :: u) = a' ++ (y ++ '(' :: u')) :
    a = a' ∧ x = y ∧ u = u' := by
  rcases ha with rfl | ⟨s, rfl, hs⟩ <;> rcases ha' with rfl | ⟨s', rfl, hs'⟩
  · obtain ⟨rfl, -, rfl⟩ := hx.append_inj hy (by decide) (by decide) h
    exact ⟨rfl, rfl, rfl⟩
  · rw [List.append_assoc] at h
    exact absurd h (call_ne_await hx hs')
  · rw [List.append_assoc] at h
    exact absurd h.symm (call_ne_await hy hs)
  · rw [List.append_assoc, List.append_assoc] at h
    obtain ⟨rfl, hcall⟩ := hs.1.append_identifier_inj hs'.1 hx hy (List.append_cancel_left h)
    obtain ⟨rfl, -, rfl⟩ := hx.append_inj hy (by decide) (by decide) hcall
    exact ⟨rfl, rfl, rfl⟩

/-- Where a call ends is clear from the text, and so are all of its parts. -/
theorem Call.parts_inj {x y : Text} (hx : Identifier x) (hy : Identifier y) {c : Call x}
    {c' : Call y} {r r' : Text} (h : c.text ++ r = c'.text ++ r') :
    x = y ∧ c.gap = c'.gap ∧ c.await = c'.await ∧ c.arguments = c'.arguments ∧ r = r' := by
  obtain ⟨n, u, hn, hu⟩ := c.exists_word hx r
  obtain ⟨n', u', hn', hu'⟩ := c'.exists_word hy r'
  obtain ⟨hgap, -⟩ := c.spaces_gap.append_identifier_inj c'.spaces_gap hn hn'
    ((hu.symm.trans h).trans hu')
  have htext : c.gap ++ (c.await ++ (x ++ '(' :: (c.arguments ++ ')' :: r))) =
      c'.gap ++ (c'.await ++ (y ++ '(' :: (c'.arguments ++ ')' :: r'))) := by
    simpa [Call.text] using h
  rw [hgap] at htext
  obtain ⟨hawait, hcallee, harguments⟩ :=
    c.awaitWord_await.append_inj hx hy c'.awaitWord_await (List.append_cancel_left htext)
  obtain ⟨harguments, -, hrest⟩ := append_cons_inj (P := (· ∉ ['(', ')', '\n']))
    c.arguments_free c'.arguments_free (by decide) (by decide) harguments
  exact ⟨hcallee, hgap, hawait, harguments, hrest⟩

theorem Call.eq_of_append {x : Text} (hx : Identifier x) {c c' : Call x} {r r' : Text}
    (h : c.text ++ r = c'.text ++ r') : c = c' ∧ r = r' := by
  obtain ⟨-, hgap, hawait, harguments, hrest⟩ := Call.parts_inj hx hx h
  cases c
  cases c'
  simp_all

/-- Where a call ends is clear from the text, and so is what it calls. -/
theorem Call.append_inj {x y : Text} (hx : Identifier x) (hy : Identifier y) {c : Call x}
    {c' : Call y} {r r' : Text} (h : c.text ++ r = c'.text ++ r') :
    x = y ∧ c.text = c'.text ∧ r = r' := by
  obtain ⟨hcallee, hgap, hawait, harguments, hrest⟩ := Call.parts_inj hx hy h
  exact ⟨hcallee, by rw [Call.text, Call.text, hgap, hawait, harguments, hcallee], hrest⟩

/-! ### No declaration goes on over the start of another -/

/-- A line break behind which a declaration begins. -/
def Broken (y : Text) : Prop := ∃ (d : Header) (z : Text), y = '\n' :: (d.text ++ z)

theorem never_broken_of_not_mem {w : Text} (h : '\n' ∉ w) : Never Broken w := by
  rintro u v t rfl hv ⟨d, z, heq⟩
  cases v with
  | nil => exact hv rfl
  | cons c v =>
      obtain ⟨rfl, -⟩ := List.cons.inj heq
      exact h (by simp)

/-- White space goes over no start of a declaration if none begins behind it. -/
theorem never_broken_append {s w : Text} (hs : Spaces s) (hw : Never Broken w)
    (hno : ∀ s, Spaces s → ∀ (d : Header) (r z : Text), s ++ (w ++ r) ≠ d.text ++ z) :
    Never Broken (s ++ w) := by
  induction s with
  | nil => exact hw
  | cons c s ih =>
      refine (ih (spaces_cons.1 hs).2).cons fun r => ?_
      rintro ⟨d, z, heq⟩
      refine hno s (spaces_cons.1 hs).2 d r z ?_
      simpa using (List.cons.inj heq).2

/-- No header begins with a character that no keyword begins with. -/
theorem Header.text_ne_of_not_keyword {s r z : Text} {c : Char} (hs : Spaces s)
    (hc : Unicode.isSpace c = false) (hno : ∀ q ∈ keywords, q.head? ≠ some c) (d : Header) :
    s ++ c :: r ≠ d.text ++ z := by
  intro heq
  obtain ⟨x, q, hq, hx, -⟩ := identifier_of_mem_keywords d.keyword_mem
  have hindent : s ++ c :: r = d.indent ++ x :: (q ++ (d.gap ++ (d.name ++ d.nameGap ++ ['='])) ++ z) := by
    rw [heq, Header.text, hq]
    simp
  obtain ⟨-, rfl, -⟩ := hs.append_inj d.lineBlanks_indent.spaces hc
    (isSpace_of_identifierStart hx) hindent
  exact hno _ d.keyword_mem (by rw [hq]; rfl)

/-- No header begins with a single word. -/
theorem Header.text_ne_of_stop {s x t r z : Text} {e : Char} (hs : Spaces s) (hx : Identifier x)
    (ht : Spaces t) (he : isStop e = true) (d : Header) : s ++ (x ++ (t ++ e :: r)) ≠ d.text ++ z := by
  intro heq
  have hheader : s ++ (x ++ (t ++ e :: r)) =
      d.indent ++ (d.keyword ++ (d.gap ++ (d.name ++ (d.nameGap ++ '=' :: z)))) := by
    simpa [Header.text] using heq
  have hkeyword := identifier_of_mem_keywords d.keyword_mem
  obtain ⟨-, hword⟩ := hs.append_identifier_inj d.lineBlanks_indent.spaces hx hkeyword hheader
  obtain ⟨c, u, hu, hpart⟩ := exists_cons_of_spaces (t := r) ht he
  obtain ⟨c', u', hu', -, hpart'⟩ := d.spaces1_gap.exists_cons (d.name ++ (d.nameGap ++ '=' :: z))
  rw [hu, hu'] at hword
  obtain ⟨-, hc, hu''⟩ := hx.append_inj hkeyword hpart hpart' hword
  -- Behind the first word there is a stop on one side, and a name on the other.
  obtain ⟨y, n, hn, hy, -⟩ := d.identifier_name
  have hgap : t ++ e :: r = d.gap ++ y :: (n ++ (d.nameGap ++ '=' :: z)) := by
    rw [hu, hc, hu'', ← hu', hn]
    rfl
  obtain ⟨-, rfl, -⟩ := ht.append_inj d.spaces1_gap.1 (isSpace_of_isStop he)
    (isSpace_of_identifierStart hy) hgap
  have hpart := identifierPart_of_identifierStart hy
  rw [identifierPart_of_isStop he] at hpart
  cases hpart

theorem not_mem_newline_of_identifier {x : Text} (hx : Identifier x) : '\n' ∉ x := fun hmem =>
  absurd (hx.forall_mem _ hmem) (by decide)

/-- A word between white space, with a stop behind it, goes over no start of a declaration. -/
theorem never_broken_word {s x t : Text} {e : Char} (hs : Spaces s) (hx : Identifier x)
    (ht : Spaces t) (he : isStop e = true) (hno : ∀ q ∈ keywords, q.head? ≠ some e) :
    Never Broken (s ++ (x ++ (t ++ [e]))) := by
  have hstop : Never Broken [e] := never_broken_of_not_mem fun hmem => by
    obtain rfl := List.mem_singleton.1 hmem
    exact absurd he (by decide)
  have hspaces : Never Broken (t ++ [e]) := never_broken_append ht hstop fun s hs d r z =>
    d.text_ne_of_not_keyword hs (isSpace_of_isStop he) hno
  refine never_broken_append hs ((never_broken_of_not_mem (not_mem_newline_of_identifier hx)).append hspaces)
    fun s hs d r z => ?_
  have := d.text_ne_of_stop (r := r) (z := z) hs hx ht he
  simpa using this

theorem Header.not_mem_newline_keyword (d : Header) : '\n' ∉ d.indent ++ d.keyword := by
  rw [List.mem_append, not_or]
  exact ⟨d.lineBlanks_indent.not_mem_newline,
    not_mem_newline_of_identifier (identifier_of_mem_keywords d.keyword_mem)⟩

theorem Call.never_broken {callee : Text} (hcallee : Identifier callee) (c : Call callee) :
    Never Broken c.text := by
  have harguments : Never Broken (c.arguments ++ [')']) := by
    refine never_broken_of_not_mem fun hmem => ?_
    rcases List.mem_append.1 hmem with hmem | hmem
    · exact c.arguments_free _ hmem (by decide)
    · exact absurd hmem (by decide)
  have hcall : ∀ {s : Text}, Spaces s →
      Never Broken (s ++ (callee ++ '(' :: (c.arguments ++ [')']))) := by
    intro s hs
    have hword := never_broken_word hs hcallee spaces_nil (show isStop '(' = true by decide)
      (by decide)
    simpa using hword.append harguments
  rcases c.awaitWord_await with h | ⟨s, h, hs⟩
  · simpa [Call.text, h] using hcall c.spaces_gap
  · -- The word that awaits the value is not the keyword of a declaration.
    have hawait : Never Broken (c.gap ++ "await".toList) :=
      never_broken_append c.spaces_gap (never_broken_of_not_mem (by decide)) fun s hs d r z =>
        d.text_ne_of_not_keyword hs (by decide) (by decide)
    simpa [Call.text, h] using hawait.append (hcall hs.1)

/-- A declaration does not go on over the start of another. -/
theorem never_broken {callee : Text} (hcallee : Identifier callee) (d : Header)
    (c : Call callee) : Never Broken (d.text ++ c.text) := by
  have hname := never_broken_word d.spaces1_gap.1 d.identifier_name d.spaces_nameGap
    (show isStop '=' = true by decide) (by decide)
  have hheader := (never_broken_of_not_mem d.not_mem_newline_keyword).append hname
  simpa [Header.text] using hheader.append (c.never_broken hcallee)

/-! ### The search from one declaration to the next -/

theorem holds_lineStart_congr {b b' a a' : Text} (h : b'.head? = b.head?) :
    Anchor.lineStart.holds (.between b' a') = Anchor.lineStart.holds (.between b a) := by
  cases b <;> cases b' <;> simp_all [Anchor.holds, Anchor.nearest]

theorem eq_newline_of_holds {b a : Text} {x : Char} (hb : b.head? = some x)
    (h : Anchor.lineStart.holds (.between b a) = true) : x = '\n' := by
  cases b with
  | nil => cases hb
  | cons c b =>
      cases hb
      simpa [Anchor.holds, Anchor.nearest] using h

theorem not_fits_of_head? {factory b a : Text} {x : Char} (hb : b.head? = some x)
    (hx : x ≠ '\n') : ¬ (declaration factory).Fits b a := fun h =>
  hx (eq_newline_of_holds hb (fits_declaration_iff.1 h).1)

theorem Semicolon.head?_reverse {e : Text} (he : Semicolon e) {callee : Text} (c : Call callee)
    (b : Text) : ∃ x, ((c.text ++ e).reverse ++ b).head? = some x ∧ x ≠ '\n' := by
  rcases he with rfl | rfl
  · exact ⟨')', by simp [Call.text], by decide⟩
  · exact ⟨';', by simp, by decide⟩

/-- The search finds the declaration at its place, and goes on behind it. -/
theorem scans_of_declaration {factory : Text} (hf : Identifier factory) {b e r : Text} {d : Header}
    {c : Call factory} {ms : List Match} (he : Semicolon e)
    (hline : ∀ a, Anchor.lineStart.holds (.between b a) = true)
    (h : Scans (declaration factory) b (d.text ++ (c.text ++ e) ++ r) ms) :
    ∃ m ms', ms = m :: ms' ∧ m.group nameGroup = d.name ∧
      Scans (declaration factory) ((d.text ++ (c.text ++ e)).reverse ++ b) r ms' := by
  have hfits : (declaration factory).Fits b (d.text ++ (c.text ++ e) ++ r) :=
    fits_declaration_iff.2 ⟨hline _, d, c, e ++ r, by simp⟩
  obtain ⟨w, t, k, ms', heq, hw, -, rfl, hs⟩ := h.of_fits hfits
  obtain ⟨-, d', c', e', rfl, he', -, -, hgroup, -⟩ := takes_declaration hw
  have htext : d.text ++ (c.text ++ (e ++ r)) = d'.text ++ (c'.text ++ (e' ++ t)) := by
    simpa using heq
  obtain ⟨hname, hd, hcall⟩ := Header.append_inj htext
  obtain ⟨-, hc, hrest⟩ := Call.append_inj hf hf hcall
  refine ⟨_, ms', rfl, hgroup.trans hname.symm, ?_⟩
  -- The pattern may have taken a semicolon that does not count here, or the other way round.
  have hbehind : ∀ a, ¬ (declaration factory).Fits ((d.text ++ c.text).reverse ++ b) a := by
    intro a
    refine not_fits_of_head? (x := ')') ?_ (by decide)
    simp [Call.text]
  rw [← hd, ← hc] at hs
  rcases he with rfl | rfl <;> rcases he' with rfl | rfl
  · obtain rfl : r = t := hrest
    exact hs
  · obtain rfl : r = ';' :: t := hrest
    have hs' : Scans (declaration factory) (';' :: ((d.text ++ c.text).reverse ++ b)) t ms' := by
      simpa using hs
    simpa using Scans.skip (hbehind _) hs'
  · obtain rfl : ';' :: r = t := hrest
    have hs' : Scans (declaration factory) ((d.text ++ c.text).reverse ++ b) (';' :: r) ms' := by
      simpa using hs
    simpa using hs'.of_not_fits (hbehind _)
  · obtain rfl : r = t := (List.cons.inj hrest).2
    exact hs

/-- The search goes on over a line that calls another function. -/
theorem scans_of_other_call {factory other : Text} (hf : Identifier factory)
    (ho : Identifier other) (hne : other ≠ factory) {b e r : Text} {d : Header} {c : Call other}
    {ms : List Match} {x : Char} (hb : b.head? = some x) (hx : x ≠ '\n')
    (hline : '\n' ∉ d.text ++ (c.text ++ e))
    (h : Scans (declaration factory) b ('\n' :: (d.text ++ (c.text ++ e)) ++ r) ms) :
    Scans (declaration factory) (('\n' :: (d.text ++ (c.text ++ e))).reverse ++ b) r ms := by
  refine h.of_append fun u v huv hv => ?_
  cases u with
  | nil => exact not_fits_of_head? hb hx
  | cons y u =>
      obtain ⟨rfl, htail⟩ := List.cons.inj huv
      rcases List.eq_nil_or_concat' u with rfl | ⟨u, z, rfl⟩
      · obtain rfl : d.text ++ (c.text ++ e) = v := htail
        intro hfits
        obtain ⟨-, d', c', r', heq⟩ := fits_declaration_iff.1 hfits
        have htext : d.text ++ (c.text ++ (e ++ r)) = d'.text ++ (c'.text ++ r') := by
          simpa using heq
        exact hne (Call.append_inj ho hf (Header.append_inj htext).2.2).1
      · have hz : z ≠ '\n' := by
          rintro rfl
          exact hline (by rw [htail]; simp)
        exact not_fits_of_head? (by simp) hz

/-! ### The two lines in place of one -/

/-- The words that the migration is about are names, the wrapper is not the factory, and the
member does not have the name of the raw value. -/
structure WellNamed (settings : TypedClientSettings) : Prop where
  /-- The factory has a name. -/
  factory : Identifier settings.factory.toList
  /-- The wrapper has a name. -/
  wrapper : Identifier settings.wrapper.toList
  /-- The raw value has a name. -/
  intermediate : Identifier settings.intermediate.toList
  /-- The member has a name. -/
  accessor : Identifier settings.accessor.toList
  /-- The wrapper is not the factory. -/
  wrapper_ne : settings.wrapper.toList ≠ settings.factory.toList
  /-- The member is not called like the raw value. -/
  intermediate_ne : settings.intermediate.toList ≠ settings.accessor.toList

/-- A call of the function with the name as its only argument. -/
def Call.ofName (callee : Text) {x : Text} (hx : Identifier x) : Call callee where
  gap := [' ']
  await := []
  arguments := x
  spaces_gap := spaces1_blank.1
  awaitWord_await := .inl rfl
  arguments_free := by
    intro c hc hmem
    have hpart := hx.forall_mem c hc
    simp only [List.mem_cons, List.not_mem_nil, or_false] at hmem
    rcases hmem with rfl | rfl | rfl <;> exact absurd hpart (by decide)

theorem not_mem_newline_ofName {callee x e : Text} (hcallee : Identifier callee) (hx : Identifier x)
    (he : Semicolon e) (d : Header) {name : Text} (hname : Identifier name) :
    '\n' ∉ (d.rename hname).text ++ ((Call.ofName callee hx).text ++ e) := by
  have hindent := d.not_mem_newline_keyword
  have hnames := not_mem_newline_of_identifier hname
  have hcallees := not_mem_newline_of_identifier hcallee
  have harguments := not_mem_newline_of_identifier hx
  have hsemicolon : '\n' ∉ e := by rcases he with rfl | rfl <;> decide
  rw [List.mem_append, not_or] at hindent
  simp [Header.text, Header.rename, Call.text, Call.ofName, hindent, hnames, hcallees, harguments,
    hsemicolon]

theorem wrapCall_of_eq {settings : TypedClientSettings} {m : Match}
    (h : m.group nameGroup = settings.intermediate.toList) : wrapCall settings m = m.text := by
  rw [wrapCall, if_pos (beq_iff_eq.2 h)]

/-- A text with a declaration holds the call of the factory, and so meets the trigger. -/
theorem isMet_callSite {settings : TypedClientSettings} {text : Text}
    (h : (declaration settings.factory.toList).Occurs [] text) :
    (callSite settings).trigger.isMet text = true := by
  obtain ⟨u, _, rfl, w, r, k, rfl, htakes⟩ := h
  obtain ⟨-, d, c, e, rfl, -⟩ := takes_declaration htakes
  rw [callSite, Trigger.isMet_requiring, Text.occurs_iff]
  refine ⟨u ++ (d.text ++ (c.gap ++ c.await)), c.arguments ++ ')' :: (e ++ r), ?_⟩
  simp [Call.text]

section

variable {settings : TypedClientSettings} (hn : WellNamed settings)

include hn

/-- A declaration of the raw value stays. Any other gives way to two: one of the raw value,
and one of the old name by a call of the wrapper. -/
theorem exists_of_takes {b w r : Text} {k : Captures}
    (h : (declaration settings.factory.toList).Takes b w r k) :
    ∃ (d : Header) (c : Call settings.factory.toList) (e : Text),
      w = d.text ++ (c.text ++ e) ∧ Semicolon e ∧
      (Match.taken b w r k).group nameGroup = d.name ∧
      (d.name = settings.intermediate.toList → wrapCall settings (.taken b w r k) = w) ∧
      (d.name ≠ settings.intermediate.toList → wrapCall settings (.taken b w r k) =
        (d.rename hn.intermediate).text ++ (c.spaced.text ++ e) ++
          '\n' :: ((d.rename d.identifier_name).text ++
            ((Call.ofName settings.wrapper.toList hn.intermediate).text ++ e))) := by
  obtain ⟨-, d, c, e, hw, he, hindent, hkeyword, hname, hawait, harguments, hsemicolon⟩ :=
    takes_declaration h
  refine ⟨d, c, e, hw, he, hname, fun heq => ?_, fun hne => ?_⟩
  · rw [wrapCall_of_eq (hname.trans heq), Match.text_taken]
  · rw [wrapCall, if_neg (by rw [hname]; simpa using hne)]
    simp [hindent, hkeyword, hname, hawait, harguments, hsemicolon, Header.text, Header.rename,
      Call.text, Call.spaced, Call.ofName]

/-- What stands in place of a declaration begins with one. -/
theorem exists_header_of_takes {b w r : Text} {k : Captures}
    (h : (declaration settings.factory.toList).Takes b w r k) :
    ∃ (d : Header) (z : Text), wrapCall settings (.taken b w r k) = d.text ++ z := by
  obtain ⟨d, c, e, hw, -, -, hkept, hwrapped⟩ := exists_of_takes hn h
  by_cases hname : d.name = settings.intermediate.toList
  · exact ⟨d, c.text ++ e, (hkept hname).trans hw⟩
  · rw [hwrapped hname, List.append_assoc]
    exact ⟨_, _, rfl⟩

/-- Two declarations in place of one differ from it in the name that comes first. -/
theorem wrapCall_append_ne {b w r : Text} {k : Captures}
    (h : (declaration settings.factory.toList).Takes b w r k)
    (hname : (Match.taken b w r k).group nameGroup ≠ settings.intermediate.toList) (t : Text) :
    wrapCall settings (.taken b w r k) ++ t ≠ w ++ r := by
  intro heq
  obtain ⟨d, c, e, hw, -, hgroup, -, hwrapped⟩ := exists_of_takes hn h
  rw [hgroup] at hname
  rw [hwrapped hname, hw] at heq
  simp only [List.append_assoc] at heq
  exact hname (Header.append_inj heq).1.symm

/-- The rule for calls fires where a call declares another name than that of the raw value. -/
theorem fires_callSite_iff (text : Text) :
    (callSite settings).toRule.fires text = true ↔
      ∃ m ∈ (declaration settings.factory.toList).matchesIn text,
        m.group nameGroup ≠ settings.intermediate.toList := by
  have hplain := isPlain_declaration settings.factory.toList
  have hsolid := isSolid_declaration settings.factory.toList
  have hreplace : (callSite settings).pattern.Replaces (callSite settings).replace := by
    intro b w r k h
    by_cases hname : (Match.taken b w r k).group nameGroup = settings.intermediate.toList
    · exact .inl ((wrapCall_of_eq hname).trans (Match.text_taken b w r k))
    · exact .inr (wrapCall_append_ne hn h hname)
  rw [Substitution.fires_iff (s := callSite settings) hplain hsolid hreplace]
  constructor
  · rintro ⟨-, m, hm, hne⟩
    exact ⟨m, hm, fun hname => hne (wrapCall_of_eq hname)⟩
  · rintro ⟨m, hm, hname⟩
    obtain ⟨b, w, r, k, rfl, htakes, htext⟩ :=
      (scans_matchesIn hplain hsolid text).exists_taken m hm
    refine ⟨isMet_callSite ⟨b.reverse, w ++ r, by simpa using htext, by simpa using htakes.fits⟩, _,
      hm, fun heq => wrapCall_append_ne hn htakes hname r ?_⟩
    rw [show wrapCall settings (.taken b w r k) = _ from heq, Match.text_taken]

/-! ### The search through the result -/

/-- A declaration that begins with characters that stay stays with all of them: it does not
run into what stands in place of another. -/
theorem exists_append_of_spliceFrom {b a : Text} {ms : List Match}
    (hscan : Scans (declaration settings.factory.toList) b a ms) :
    ∀ {u r : Text} {d : Header} {c : Call settings.factory.toList}, u ≠ [] → u.reverse <+: b →
      u ++ spliceFrom (wrapCall settings) (.between b a) ms = d.text ++ c.text ++ r →
      ∃ r', u ++ a = d.text ++ c.text ++ r' := by
  induction hscan with
  | done => exact fun _ _ h => ⟨_, h⟩
  | @skip b a x ms _ hs ih =>
      intro u r d c _ hb h
      rw [spliceFrom_skip fun m hm => hs.le_start m hm] at h
      obtain ⟨t, rfl⟩ := hb
      have hprefix : (u ++ [x]).reverse <+: x :: (u.reverse ++ t) := ⟨t, by simp⟩
      obtain ⟨r', hr'⟩ := ih (u := u ++ [x]) (by simp) hprefix (by simpa using h)
      exact ⟨r', by simpa using hr'⟩
  | @found b w a k ms _ ht _ _ _ =>
      intro u r d c hu hb h
      rw [spliceFrom_found] at h
      rcases List.append_eq_append_iff.1 h with ⟨v, hv, hrest⟩ | ⟨v, rfl, -⟩
      · cases v with
        | nil => exact ⟨w ++ a, by rw [hv, List.append_nil]⟩
        | cons y v =>
            -- The declaration would go on over the line break before the match.
            obtain ⟨t, rfl⟩ := hb
            rcases List.eq_nil_or_concat' u with rfl | ⟨u, z, rfl⟩
            · exact absurd rfl hu
            · have hhead : ((u ++ [z]).reverse ++ t).head? = some z := by simp
              obtain rfl := eq_newline_of_holds hhead (takes_declaration ht).1
              obtain ⟨d', z, hd'⟩ := exists_header_of_takes hn ht
              refine absurd ?_ (never_broken hn.factory d c u ('\n' :: y :: v) r
                (by simpa using hv) (List.cons_ne_nil _ _))
              rw [hd', List.append_assoc] at hrest
              exact ⟨d', _, congrArg ('\n' :: ·) hrest.symm⟩
      · exact ⟨v ++ (w ++ a), by simp⟩

/-- The search through the result finds declarations of the raw value only. It goes along
with the search through the text: at each place both find a declaration or none does. -/
theorem group_eq_of_scans {b a : Text} {ms : List Match}
    (hscan : Scans (declaration settings.factory.toList) b a ms) :
    ∀ {b' : Text} {ms' : List Match}, b'.head? = b.head? →
      Scans (declaration settings.factory.toList) b'
        (spliceFrom (wrapCall settings) (.between b a) ms) ms' →
      ∀ m ∈ ms', m.group nameGroup = settings.intermediate.toList := by
  induction hscan with
  | done =>
      intro b' ms' _ hscan'
      rw [Scans.eq_nil hscan']
      simp
  | @skip b a x ms hfits hs ih =>
      intro b' ms' hhead hscan'
      rw [spliceFrom_skip fun m hm => hs.le_start m hm] at hscan'
      refine ih ?_ (hscan'.of_not_fits fun h => hfits ?_)
      · rfl
      · obtain ⟨hline, d, c, r, heq⟩ := fits_declaration_iff.1 h
        obtain ⟨r', hr'⟩ := exists_append_of_spliceFrom hn hs (u := [x]) (List.cons_ne_nil x [])
          ⟨b, rfl⟩ (heq.trans (List.append_assoc _ _ _).symm)
        refine fits_declaration_iff.2 ⟨?_, d, c, r', hr'.trans (List.append_assoc _ _ _)⟩
        rwa [← holds_lineStart_congr hhead]
  | @found b w a k ms _ ht _ _ ih =>
      intro b' ms' hhead hscan'
      have hline : ∀ y, Anchor.lineStart.holds (.between b' y) = true := fun y =>
        (holds_lineStart_congr hhead).trans (takes_declaration ht).1
      obtain ⟨d, c, e, rfl, he, -, hkept, hwrapped⟩ := exists_of_takes hn ht
      rw [spliceFrom_found] at hscan'
      by_cases hname : d.name = settings.intermediate.toList
      · rw [hkept hname] at hscan'
        obtain ⟨m, ms', rfl, hgroup, hs'⟩ := scans_of_declaration hn.factory he hline hscan'
        refine List.forall_mem_cons.2 ⟨hgroup.trans hname, ih ?_ hs'⟩
        rcases he with rfl | rfl <;> simp [Call.text]
      · rw [hwrapped hname, List.append_assoc] at hscan'
        obtain ⟨m, ms', rfl, hgroup, hs'⟩ := scans_of_declaration hn.factory he hline hscan'
        obtain ⟨x, hx, hne⟩ := he.head?_reverse c.spaced
          ((d.rename hn.intermediate).text.reverse ++ b')
        have hsecond := scans_of_other_call hn.factory hn.wrapper hn.wrapper_ne
          (by simpa using hx) hne (not_mem_newline_ofName hn.wrapper hn.intermediate he d d.identifier_name) hs'
        refine List.forall_mem_cons.2 ⟨hgroup, ih ?_ hsecond⟩
        rcases he with rfl | rfl <;> simp [Call.text]

/-- Every call of the factory that the rule leaves declares the raw value. -/
theorem group_eq_of_mem_matchesIn_apply {text : Text} :
    ∀ m ∈ (declaration settings.factory.toList).matchesIn ((callSite settings).apply text),
      m.group nameGroup = settings.intermediate.toList := by
  have hscan := scans_matchesIn (isPlain_declaration settings.factory.toList)
    (isSolid_declaration settings.factory.toList)
  exact group_eq_of_scans hn (hscan text) rfl (hscan _)

/-- The rule for calls does not fire on what it has made of a text. -/
theorem fires_run_callSite (text : Text) :
    (callSite settings).toRule.fires ((callSite settings).toRule.run text) = false := by
  by_contra h
  rw [Bool.not_eq_false] at h
  have htrigger := Rule.trigger_of_trigger_run (Rule.fires_iff.1 h).1
  rw [Rule.run_of_trigger htrigger, fires_callSite_iff hn] at h
  obtain ⟨m, hm, hname⟩ := h
  exact hname (group_eq_of_mem_matchesIn_apply hn m hm)

end

end CodeMigration.TypedClient
