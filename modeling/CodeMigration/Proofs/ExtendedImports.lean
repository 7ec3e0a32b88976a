import CodeMigration.Proofs.DefaultImports
import CodeMigration.Proofs.ImportLists

/-!
# CodeMigration.Proofs.ExtendedImports

A name that is added to the braces of an import is imported then, and nothing else changes
(`ImportRule.apply_extends`).

The rule looks for the name by a new search, so the search has to find the longer list again.
An import from a module opens with the first brace behind the word `import`, and its names end
with the first closing brace. Between the two braces of the list nothing but names has changed,
and no closing brace is new. So imports begin at the same places before the list as they did
(`ImportRule.fits_braced`), even where an import that is not closed swallows the list with all
that is before it. The search comes to the list in the same steps (`ImportRule.exists_braced`).
-/

namespace CodeMigration

/-! ### Patterns and the characters around them -/

namespace Pattern

theorem holds_congr_head? {anchor : Anchor} {b a a' : Text} (h : a.head? = a'.head?) :
    anchor.holds (.between b a) = anchor.holds (.between b a') := by
  cases a with
  | nil =>
      cases a' with
      | nil => rfl
      | cons => cases h
  | cons c a =>
      cases a' with
      | nil => cases h
      | cons d a' =>
          obtain rfl := Option.some.inj h
          cases anchor <;> rfl

/-- Of the text behind it a pattern sees no more than the first character. -/
theorem Takes.congr_head? {p : Pattern} {b w a : Text} {k : Captures} (h : p.Takes b w a k) :
    ∀ a' : Text, a.head? = a'.head? → ∃ k', p.Takes b w a' k' := by
  induction h with
  | empty => exact fun _ _ => ⟨_, .empty⟩
  | word => exact fun _ _ => ⟨_, .word⟩
  | one hx => exact fun _ _ => ⟨_, .one hx⟩
  | look hlook => exact fun _ ha => ⟨_, .look (holds_congr_head? ha ▸ hlook)⟩
  | @seq _ _ _ _ w _ _ _ _ _ ihp ihq =>
      intro a' ha
      obtain ⟨k', hp⟩ := ihp (w ++ a') (by simp [List.head?_append, ha])
      obtain ⟨l', hq⟩ := ihq a' ha
      exact ⟨_, .seq hp hq⟩
  | altLeft _ ih =>
      intro a' ha
      obtain ⟨k', hp⟩ := ih a' ha
      exact ⟨k', .altLeft hp⟩
  | altRight _ ih =>
      intro a' ha
      obtain ⟨k', hq⟩ := ih a' ha
      exact ⟨k', .altRight hq⟩
  | group _ ih =>
      intro a' ha
      obtain ⟨k', hp⟩ := ih a' ha
      exact ⟨_, .group hp⟩
  | run hrun => exact fun _ _ => ⟨_, .run hrun⟩
  | starNil => exact fun _ _ => ⟨_, .starNil⟩
  | @starCons _ _ _ _ _ w _ _ _ hv _ _ ihp ihstar =>
      intro a' ha
      obtain ⟨k', hp⟩ := ihp (w ++ a') (by simp [List.head?_append, ha])
      obtain ⟨l', hstar⟩ := ihstar a' ha
      exact ⟨_, .starCons hv hp hstar⟩

/-- Does no part of the pattern take the character? -/
def avoids (c : Char) : Pattern → Bool
  | empty | look _ => true
  | word cs => !cs.contains c
  | one set | run _ _ set => !set.contains c
  | seq p q | alt _ p q => p.avoids c && q.avoids c
  | group _ p | star _ _ p | rounds _ _ p | upTo _ _ p | region p => p.avoids c

theorem Takes.not_mem {p : Pattern} {b w a : Text} {k : Captures} (h : p.Takes b w a k) {c : Char}
    (hp : p.avoids c = true) : c ∉ w := by
  induction h with
  | empty => simp
  | word => simpa [avoids] using hp
  | @one set x _ _ hx =>
      intro hmem
      obtain rfl := List.mem_singleton.1 hmem
      simp [avoids, hx] at hp
  | look => simp
  | seq _ _ ihp ihq =>
      rw [avoids, Bool.and_eq_true] at hp
      simpa using ⟨ihp hp.1, ihq hp.2⟩
  | altLeft _ ih => exact ih (Bool.and_eq_true_iff.1 hp).1
  | altRight _ ih => exact ih (Bool.and_eq_true_iff.1 hp).2
  | group _ ih => exact ih hp
  | run hrun =>
      intro hmem
      simp [avoids, hrun c hmem] at hp
  | starNil => simp
  | starCons _ _ _ ihp ihstar => simpa using ⟨ihp hp, ihstar hp⟩

end Pattern

namespace ImportRule

open Lexeme Pattern NamedExports

/-! ### Imports in braces -/

/-- The start of an import, up to its braces. -/
def opening : Pattern :=
  .seqs
    [.boundary, .literal "import", blanks,
     .optional (.seqs [.group kindGroup (.literal "type"), .boundary, blanks]),
     .optional (.seqs [identifier, blanks, .literal ",", blanks])]

/-- The word opens an import, if a brace stands behind it. -/
def Opens (b o : Text) : Prop := ∃ k, opening.Takes b o ['\x7b'] k

theorem Opens.not_mem {b o : Text} (h : Opens b o) : '\x7b' ∉ o := by
  obtain ⟨k, h⟩ := h
  exact h.not_mem (by decide +kernel)

theorem takes_quoted_iff {module b w a : Text} {k : Captures} :
    (quoted module).Takes b w a k ↔
      (∃ q q', w = q :: (module ++ [q']) ∧ isQuote q = true ∧ isQuote q' = true) ∧ k = [] := by
  simp only [quoted, takes_seqs_iff, takesAll_cons_of_free fun _ _ _ _ => takes_quote_iff,
    takesAll_word_cons, takesAll_nil]
  constructor
  · intro h
    obtain ⟨_, _, rfl, ⟨q, rfl, hq⟩, _, rfl, _, _, rfl, ⟨q', rfl, hq'⟩, rfl, rfl⟩ := h
    exact ⟨⟨q, q', by simp, hq, hq'⟩, rfl⟩
  · intro h
    obtain ⟨⟨q, q', rfl, hq, hq'⟩, rfl⟩ := h
    exact ⟨[q], _, rfl, ⟨q, rfl, hq⟩, [q'], rfl, [q'], [], rfl, ⟨q', rfl, hq'⟩, rfl, rfl⟩

/-- What stands behind the braces of an import from a module. -/
structure Source (module : Text) where
  /-- The space behind the braces. -/
  gap : Text
  /-- The space before the module. -/
  quoteGap : Text
  /-- The quote before the module. -/
  openQuote : Char
  /-- The quote behind the module. -/
  closeQuote : Char
  /-- There is nothing but white space behind the braces. -/
  spaces_gap : Spaces gap
  /-- There is nothing but white space before the module. -/
  spaces_quoteGap : Spaces quoteGap
  /-- A quote stands before the module. -/
  isQuote_openQuote : isQuote openQuote = true
  /-- A quote stands behind the module. -/
  isQuote_closeQuote : isQuote closeQuote = true

namespace Source

variable {module : Text}

/-- The source as it is written. -/
def text (c : Source module) : Text :=
  c.gap ++ (fromWord ++ (c.quoteGap ++ c.openQuote :: (module ++ [c.closeQuote])))

theorem takesAll_iff {b w a : Text} {k : Captures} :
    TakesAll [blanks, .literal "from", blanks, quoted module] b w a k ↔
      (∃ c : Source module, w = c.text) ∧ k = [] := by
  simp only [takesAll_blanks_cons, takesAll_literal_cons, toList_from,
    takesAll_cons_of_free fun _ _ _ _ => takes_quoted_iff, takesAll_nil]
  constructor
  · intro h
    obtain ⟨s, _, rfl, hs, _, rfl, t, _, rfl, ht, _, _, rfl, ⟨q, q', rfl, hq, hq'⟩, rfl, rfl⟩ := h
    exact ⟨⟨⟨s, t, q, q', hs, ht, hq, hq'⟩, by simp [text]⟩, rfl⟩
  · intro h
    obtain ⟨⟨c, rfl⟩, rfl⟩ := h
    exact ⟨c.gap, _, rfl, c.spaces_gap, _, rfl, c.quoteGap, _, rfl, c.spaces_quoteGap, _, [],
      by simp, ⟨_, _, rfl, c.isQuote_openQuote, c.isQuote_closeQuote⟩, rfl, rfl⟩

/-- Where a source ends is clear from the text. -/
theorem eq_of_append {c d : Source module} {r s : Text} (h : c.text ++ r = d.text ++ s) :
    c.text = d.text ∧ r = s := by
  simp only [text, List.append_assoc, List.cons_append, List.nil_append] at h
  obtain ⟨hgap, -, hfrom⟩ := c.spaces_gap.append_inj d.spaces_gap (x := 'f') (y := 'f')
    (by decide) (by decide) h
  obtain ⟨hquoteGap, hopen, hmodule⟩ := c.spaces_quoteGap.append_inj d.spaces_quoteGap
    (isSpace_of_isQuote c.isQuote_openQuote) (isSpace_of_isQuote d.isQuote_openQuote)
    (List.append_cancel_left hfrom)
  obtain ⟨hclose, hrest⟩ := List.cons.inj (List.append_cancel_left hmodule)
  exact ⟨by rw [text, text, hgap, hquoteGap, hopen, hclose], hrest⟩

theorem brace_not_mem (hmodule : '\x7b' ∉ module) (c : Source module) : '\x7b' ∉ c.text := by
  have hspaces : ∀ {s : Text}, Spaces s → '\x7b' ∉ s := fun hs hmem =>
    absurd (hs _ hmem) (by decide)
  have hquote : ∀ {q : Char}, isQuote q = true → '\x7b' ≠ q := by
    intro q hq heq
    rw [← heq] at hq
    exact absurd hq (by decide)
  simp [text, hspaces c.spaces_gap, hspaces c.spaces_quoteGap, hquote c.isQuote_openQuote,
    hquote c.isQuote_closeQuote, hmodule, fromWord]

end Source

/-- Names go up to the first closing brace. -/
theorem takes_names_iff {b w a : Text} {k : Captures} :
    (many (.noneOf ['\x7d'])).Takes b w a k ↔ '\x7d' ∉ w ∧ k = [] := by
  rw [many, takes_run_iff]
  simp only [CharSet.contains_noneOf, List.mem_singleton]
  refine and_congr_left fun _ => ⟨fun h hmem => h _ hmem rfl, fun h x hx heq => ?_⟩
  rw [heq] at hx
  exact h hx

/-- A text with a part of it in braces. -/
def braced (front names rest : Text) : Text := front ++ '\x7b' :: (names ++ '\x7d' :: rest)

theorem braced_append (front names rest a : Text) :
    braced front names rest ++ a = braced front names (rest ++ a) := by simp [braced]

/-- The first brace and the first closing brace behind it are clear from the text. -/
theorem braced_inj {o o' n n' r r' : Text} (ho : '\x7b' ∉ o) (ho' : '\x7b' ∉ o') (hn : '\x7d' ∉ n)
    (hn' : '\x7d' ∉ n') (h : braced o n r = braced o' n' r') : o = o' ∧ n = n' ∧ r = r' := by
  obtain ⟨rfl, hnames⟩ := Text.eq_of_append_cons ho ho' h
  obtain ⟨rfl, hrest⟩ := Text.eq_of_append_cons hn hn' hnames
  exact ⟨rfl, rfl, hrest⟩

/-- The captured names of an import, from brace to brace. -/
def namesSpan (b o names rest : Text) : Cursor × Cursor :=
  (.between ('\x7b' :: (o.reverse ++ b)) (names ++ '\x7d' :: rest),
    .between (names.reverse ++ '\x7b' :: (o.reverse ++ b)) ('\x7d' :: rest))

theorem takes_importsFrom_iff {module b w a : Text} {k : Captures} :
    (importsFrom module).Takes b w a k ↔ ∃ (o names : Text) (c : Source module) (l : Captures),
      w = braced o names c.text ∧
        opening.Takes b o ('\x7b' :: (names ++ '\x7d' :: (c.text ++ a))) l ∧
        '\x7d' ∉ names ∧ k = (namesGroup, namesSpan b o names (c.text ++ a)) :: l := by
  show (seqs ([.boundary, .literal "import", blanks, _, _] ++ [.literal "\x7b",
    .group namesGroup (.many (.noneOf ['\x7d'])), .literal "\x7d", blanks, .literal "from", blanks,
    quoted module])).Takes b w a k ↔ _
  simp only [takes_seqs_iff, takesAll_append, opening, takesAll_literal_cons, takesAll_group_cons,
    takes_names_iff, Source.takesAll_iff]
  constructor
  · intro h
    obtain ⟨o, _, l, _, rfl, ho, ⟨_, rfl, names, _, _, _, rfl, ⟨hbody, rfl⟩,
      ⟨_, rfl, ⟨c, rfl⟩, rfl⟩, rfl⟩, rfl⟩ := h
    exact ⟨o, names, c, l, rfl, by simpa using ho, hbody, by simp [namesSpan]⟩
  · intro h
    obtain ⟨o, names, c, l, rfl, ho, hbody, rfl⟩ := h
    exact ⟨o, _, l, _, rfl, by simpa using ho, ⟨_, rfl, names, _, [], [], rfl, ⟨hbody, rfl⟩,
      ⟨_, rfl, ⟨c, rfl⟩, rfl⟩, rfl⟩, by simp [namesSpan]⟩

/-- What an import from a module is made of, and where its names are. -/
theorem takes_importsFrom {module b w a : Text} {k : Captures}
    (h : (importsFrom module).Takes b w a k) :
    ∃ (o names : Text) (c : Source module), w = braced o names c.text ∧ Opens b o ∧
      '\x7d' ∉ names ∧ (Match.taken b w a k).span? namesGroup =
        some (namesSpan b o names (c.text ++ a)) := by
  obtain ⟨o, names, c, l, hw, ho, hnames, rfl⟩ := takes_importsFrom_iff.1 h
  obtain ⟨l', hopens⟩ := ho.congr_head? ['\x7b'] rfl
  exact ⟨o, names, c, hw, ⟨l', hopens⟩, hnames, by simp [Match.span?, Match.taken, namesGroup]⟩

/-- An import from a module begins where one can be opened, named and closed. -/
theorem fits_importsFrom_iff {module b a : Text} :
    (importsFrom module).Fits b a ↔ ∃ (o names : Text) (c : Source module) (r : Text),
      a = braced o names (c.text ++ r) ∧ Opens b o ∧ '\x7d' ∉ names := by
  constructor
  · intro h
    obtain ⟨w, r, k, rfl, htakes⟩ := h
    obtain ⟨o, names, c, rfl, ho, hnames, -⟩ := takes_importsFrom htakes
    exact ⟨o, names, c, r, braced_append o names c.text r, ho, hnames⟩
  · intro h
    obtain ⟨o, names, c, r, rfl, ⟨l, ho⟩, hnames⟩ := h
    obtain ⟨l', hopens⟩ := ho.congr_head? ('\x7b' :: (names ++ '\x7d' :: (c.text ++ r))) rfl
    exact ⟨_, r, _, (braced_append o names c.text r).symm,
      takes_importsFrom_iff.2 ⟨o, names, c, l', rfl, hopens, hnames, rfl⟩⟩

/-- What an import takes at a place is clear from the text. -/
theorem takes_importsFrom_inj {module b w w' a a' : Text} {k k' : Captures}
    (h : (importsFrom module).Takes b w a k) (h' : (importsFrom module).Takes b w' a' k')
    (heq : w ++ a = w' ++ a') : w = w' ∧ a = a' := by
  obtain ⟨o, names, c, rfl, ho, hnames, -⟩ := takes_importsFrom h
  obtain ⟨o', names', c', rfl, ho', hnames', -⟩ := takes_importsFrom h'
  rw [braced_append, braced_append] at heq
  obtain ⟨rfl, rfl, hrest⟩ := braced_inj ho.not_mem ho'.not_mem hnames hnames' heq
  obtain ⟨hsource, rfl⟩ := Source.eq_of_append hrest
  exact ⟨by rw [hsource], rfl⟩

/-! ### The longer list is found -/

/-- The text goes on like an import whose braces are closed. -/
def BeginsSource (module rest : Text) : Prop := ∃ (c : Source module) (r : Text), rest = c.text ++ r

/-- Before a list of names an import begins where it did with other names in the list, and with
other text behind it. -/
theorem fits_braced {module : Text} (hmodule : '\x7b' ∉ module) {b front old new rest rest' : Text}
    (hold : '\x7d' ∉ old) (hnew : '\x7d' ∉ new)
    (hrest : BeginsSource module rest' → BeginsSource module rest)
    (h : (importsFrom module).Fits b (braced front new rest')) :
    (importsFrom module).Fits b (braced front old rest) := by
  rw [fits_importsFrom_iff] at h ⊢
  obtain ⟨o, names, c, r, heq, ho, hnames⟩ := h
  obtain ⟨t, rfl, ht⟩ := Text.exists_append_of_not_mem ho.not_mem heq.symm
  cases t with
  | nil =>
      -- The import opens with the brace of the list.
      obtain ⟨-, hlist⟩ := List.cons.inj ht
      obtain ⟨-, hbehind⟩ := Text.eq_of_append_cons hnames hnew hlist
      obtain ⟨c', r', rfl⟩ := hrest ⟨c, r, hbehind.symm⟩
      exact ⟨o, old, c', r', by simp [braced], ho, hold⟩
  | cons x t =>
      obtain ⟨rfl, hlist⟩ := List.cons.inj ht
      by_cases hclosed : '\x7d' ∈ t
      · -- It opens and closes before the list.
        obtain ⟨n, t', rfl, hn⟩ := List.eq_append_cons_of_mem hclosed
        have hlist' : names ++ '\x7d' :: (c.text ++ r) =
            n ++ '\x7d' :: (t' ++ '\x7b' :: (new ++ '\x7d' :: rest')) := by simpa using hlist
        obtain ⟨-, hbehind⟩ := Text.eq_of_append_cons hnames hn hlist'
        obtain ⟨r', rfl, -⟩ := Text.exists_append_of_not_mem (c.brace_not_mem hmodule) hbehind
        exact ⟨o, n, c, r' ++ '\x7b' :: (old ++ '\x7d' :: rest), by simp [braced], ho, hn⟩
      · -- It opens before the list, and the list is among its names.
        have hlist' : names ++ '\x7d' :: (c.text ++ r) =
            (t ++ '\x7b' :: new) ++ '\x7d' :: rest' := by simpa using hlist
        obtain ⟨-, hbehind⟩ := Text.eq_of_append_cons hnames (by simp [hclosed, hnew]) hlist'
        obtain ⟨c', r', rfl⟩ := hrest ⟨c, r, hbehind.symm⟩
        exact ⟨o, t ++ '\x7b' :: old, c', r', by simp [braced], ho, by simp [hclosed, hold]⟩

/-- The names of an import lie behind its start. -/
theorem lt_namesStart {module b a : Text} {ms : List Match}
    (h : Scans (importsFrom module) b a ms) {m : Match} (hm : m ∈ ms) {s e : Cursor}
    (hspan : m.span? namesGroup = some (s, e)) : b.length < s.before.length := by
  have hstart := h.le_start m hm
  obtain ⟨b', w, r, k, rfl, htakes, -⟩ := h.exists_taken m hm
  obtain ⟨o, names, c, -, -, -, hnames⟩ := takes_importsFrom htakes
  rw [hspan, Option.some.injEq] at hnames
  obtain ⟨rfl, -⟩ := Prod.mk.inj hnames
  simp at hstart ⊢
  omega

theorem group_of_namesSpan {m : Match} {b o names rest : Text}
    (h : m.span? namesGroup = some (namesSpan b o names rest)) : m.group namesGroup = names := by
  simp [Match.group, Match.group?, h, namesSpan]

/-- An import whose list opens where it did takes the names that are there now. -/
theorem group_of_takes_braced {module b w a w' r front new rest : Text} {k k' : Captures}
    {s e : Cursor} (h : (importsFrom module).Takes b w a k)
    (hspan : (Match.taken b w a k).span? namesGroup = some (s, e))
    (hs : s.before = '\x7b' :: (front.reverse ++ b)) (hnew : '\x7d' ∉ new)
    (h' : (importsFrom module).Takes b w' r k') (heq : braced front new rest = w' ++ r) :
    (Match.taken b w' r k').group namesGroup = new := by
  obtain ⟨o, names, c, -, ho, -, hnames⟩ := takes_importsFrom h
  rw [hspan, Option.some.injEq] at hnames
  obtain ⟨rfl, -⟩ := Prod.mk.inj hnames
  -- The list opens with the first brace.
  obtain rfl : o = front := by simpa using hs
  obtain ⟨o', names', c', rfl, ho', hnames', hspan'⟩ := takes_importsFrom h'
  rw [braced_append] at heq
  obtain ⟨-, rfl, -⟩ := braced_inj ho.not_mem ho'.not_mem hnew hnames' heq
  exact group_of_namesSpan hspan'

/-- An import before a list takes the same whatever names are in the list, and whatever comes
behind it. -/
theorem eq_of_takes_before {module b w w' r t old new rest rest' : Text} {k k' : Captures}
    (h : (importsFrom module).Takes b w (braced t old rest) k)
    (h' : (importsFrom module).Takes b w' r k') (heq : braced (w ++ t) new rest' = w' ++ r) :
    w = w' ∧ braced t new rest' = r := by
  have hahead : braced (w ++ t) new rest' = w ++ braced t new rest' := by simp [braced]
  obtain ⟨l, hagain⟩ := h.congr_head? (braced t new rest') (by simp [braced, List.head?_append])
  exact takes_importsFrom_inj hagain h' (hahead.symm.trans heq)

/-- A search that finds a list of names finds it with other names too, and with other text behind
the import. -/
theorem exists_braced {module : Text} (hmodule : '\x7b' ∉ module) {b a : Text} {ms : List Match}
    (h : Scans (importsFrom module) b a ms) {old new rest rest' : Text} (hold : '\x7d' ∉ old)
    (hnew : '\x7d' ∉ new) (hrest : BeginsSource module rest ↔ BeginsSource module rest')
    {m : Match} (hm : m ∈ ms) {s e : Cursor}
    (hspan : m.span? namesGroup = some (s, e)) {front : Text} (ha : a = braced front old rest)
    (hs : s.before = '\x7b' :: (front.reverse ++ b)) {ms' : List Match}
    (h' : Scans (importsFrom module) b (braced front new rest') ms') :
    ∃ m' ∈ ms', m'.group namesGroup = new := by
  induction h generalizing front ms' with
  | done => simp [braced] at ha
  | @skip b a x ms hno hscan ih =>
      cases front with
      | nil =>
          have hlt := lt_namesStart hscan hm hspan
          simp [hs] at hlt
      | cons y front =>
          obtain ⟨rfl, htail⟩ := List.cons.inj ha
          have hno' : ¬ (importsFrom module).Fits b (x :: braced front new rest') := by
            intro hfits
            rw [ha] at hno
            exact hno (fits_braced hmodule hold hnew hrest.2 hfits)
          exact ih hm htail (by simpa using hs) (h'.of_not_fits hno')
  | @found b w a k ms _ ht _ hscan ih =>
      have hfits := fits_braced hmodule hnew hold hrest.1 (ha ▸ ht.fits)
      obtain ⟨w', r', k', ms', heq, ht', -, rfl, hscan'⟩ := h'.of_fits hfits
      rcases List.mem_cons.1 hm with rfl | hlater
      · exact ⟨_, List.mem_cons_self, group_of_takes_braced ht hspan hs hnew ht' heq⟩
      · -- The list is behind this import, which is read as before.
        have hlt := lt_namesStart hscan hlater hspan
        have hlength : w.length ≤ front.length := by
          simp [hs] at hlt
          omega
        obtain ⟨t, rfl⟩ := List.prefix_of_prefix_length_le ⟨a, rfl⟩ ⟨_, ha.symm⟩ hlength
        obtain rfl : a = braced t old rest := by simpa [braced] using ha
        obtain ⟨rfl, rfl⟩ := eq_of_takes_before ht ht' heq
        obtain ⟨m', hm', hgroup⟩ := ih hlater rfl (by simpa using hs) hscan'
        exact ⟨m', List.mem_cons_of_mem _ hm', hgroup⟩

/-! ### Extending an import -/

/-- The parts of a rule can stand in an import list: the name is one entry and marks no type, and
neither the name nor the module brings in braces that the pattern would stop at. -/
structure Listable (rule : ImportRule) : Prop where
  /-- There is a name. -/
  name_ne_nil : rule.name ≠ []
  /-- The name is not the word that marks a type. -/
  name_ne_type : rule.name ≠ "type".toList
  /-- The name has no white space in it and no comma. -/
  name_plain : ∀ c ∈ rule.name, Unicode.isSpace c = false ∧ c ≠ ','
  /-- The name has no closing brace in it. -/
  brace_not_mem_name : '\x7d' ∉ rule.name
  /-- The module has no opening brace in it. -/
  brace_not_mem_module : '\x7b' ∉ rule.module

/-- The names in braces of the first import of values from the module have these ends in the
text. Imports of types may stand before it. -/
def FirstList (module text : Text) (s e : Cursor) : Prop :=
  ∃ earlier m later, (importsFrom module).matchesIn text = earlier ++ m :: later ∧
    (∀ m' ∈ earlier, m'.span? kindGroup ≠ none) ∧ m.span? kindGroup = none ∧
    m.span? namesGroup = some (s, e)

/-- Every import has a list of names. -/
theorem exists_span_names {module text : Text} {m : Match}
    (hm : m ∈ (importsFrom module).matchesIn text) : ∃ s e, m.span? namesGroup = some (s, e) := by
  obtain ⟨b, w, r, k, rfl, htakes, -⟩ := (scans_matchesIn (isPlain_importsFrom module)
    (isSolid_importsFrom module) text).exists_taken m hm
  obtain ⟨o, names, c, -, -, -, hspan⟩ := takes_importsFrom htakes
  exact ⟨_, _, hspan⟩

theorem firstList_of_extendable? {rule : ImportRule} {text : Text} {s e : Cursor}
    (h : rule.extendable? text = some (s, e)) : FirstList rule.module text s e := by
  obtain ⟨first, m, others, hvalues, hspan, hfirst⟩ := List.findSome?_eq_some_iff.1 h
  -- Every import has a list, so no import of values stands before the one that is found.
  have hnil : first = [] := by
    refine List.eq_nil_iff_forall_not_mem.2 fun m' hm' => ?_
    have hmem := (List.mem_filter.1 (hvalues ▸ List.mem_append_left _ hm')).1
    obtain ⟨s', e', hnames⟩ := exists_span_names hmem
    rw [hfirst _ hm'] at hnames
    cases hnames
  rw [hnil, List.nil_append, List.filter_eq_cons_iff] at hvalues
  obtain ⟨earlier, later, hmatches, hearlier, hkind, -⟩ := hvalues
  exact ⟨earlier, m, later, hmatches, fun m' hm' => by simpa using hearlier m' hm',
    by simpa using hkind, hspan⟩

/-- The names of an import stand in braces in the text, and its source behind them. -/
theorem exists_eq_braced {module text : Text} {m : Match}
    (hm : m ∈ (importsFrom module).matchesIn text) {s e : Cursor}
    (hspan : m.span? namesGroup = some (s, e)) :
    ∃ front names rest, text = braced front names rest ∧ '\x7d' ∉ names ∧
      (s, e) = namesSpan [] front names rest ∧ BeginsSource module rest := by
  obtain ⟨b, w, r, k, rfl, htakes, htext⟩ := (scans_matchesIn (isPlain_importsFrom module)
    (isSolid_importsFrom module) text).exists_taken m hm
  obtain ⟨o, names, c, rfl, -, hnames, hspan'⟩ := takes_importsFrom htakes
  rw [hspan, Option.some.injEq] at hspan'
  refine ⟨b.reverse ++ o, names, c.text ++ r, by simpa [braced] using htext, hnames, ?_, c, r, rfl⟩
  simp [hspan', namesSpan]

/-- An import list that is replaced by another one with the name imports it, whatever comes behind
the import. -/
theorem isSatisfied_braced {rule : ImportRule} (hmodule : '\x7b' ∉ rule.module)
    {front old new rest rest' : Text} (hold : '\x7d' ∉ old) (hnew : '\x7d' ∉ new)
    (hrest : BeginsSource rule.module rest ↔ BeginsSource rule.module rest')
    (hlists : lists rule.name new = true) {m : Match}
    (hm : m ∈ (importsFrom rule.module).matchesIn (braced front old rest))
    (hspan : m.span? namesGroup = some (namesSpan [] front old rest)) :
    rule.isSatisfied (braced front new rest') = true := by
  have hscan := fun text => scans_matchesIn (isPlain_importsFrom rule.module)
    (isSolid_importsFrom rule.module) text
  obtain ⟨m', hm', hgroup⟩ := exists_braced hmodule (hscan _) hold hnew hrest hm hspan rfl (by simp)
    (hscan (braced front new rest'))
  exact List.any_eq_true.2 ⟨m', hm', by rw [hgroup, hlists]⟩

/-- What is imported in the first part of a text is imported in the text. -/
theorem isSatisfied_append {rule : ImportRule} (hmodule : '\x7b' ∉ rule.module) {text : Text}
    (h : rule.isSatisfied text = true) (more : Text) : rule.isSatisfied (text ++ more) = true := by
  obtain ⟨m, hm, hlists⟩ := List.any_eq_true.1 h
  obtain ⟨s, e, hspan⟩ := exists_span_names hm
  obtain ⟨front, names, rest, rfl, hnames, hends, c, r, rfl⟩ := exists_eq_braced hm hspan
  rw [hends] at hspan
  rw [group_of_namesSpan hspan] at hlists
  rw [braced_append]
  refine isSatisfied_braced hmodule hnames hnames (iff_of_true ⟨c, r, rfl⟩ ⟨c, r ++ more, ?_⟩)
    hlists hm hspan
  rw [List.append_assoc]

/-- The longer list stands in the braces of the list that is extended. -/
theorem extendExisting_eq {rule : ImportRule} {text : Text} {s e : Cursor}
    (h : rule.extendable? text = some (s, e)) :
    ∃ front names rest, (s, e) = namesSpan [] front names rest ∧ '\x7d' ∉ names ∧
      text = braced front names rest ∧
      rule.extendExisting text = braced front (extendList rule.name names) rest := by
  obtain ⟨earlier, m, later, hmatches, -, -, hspan⟩ := firstList_of_extendable? h
  have hm : m ∈ (importsFrom rule.module).matchesIn text := by simp [hmatches]
  obtain ⟨front, names, rest, rfl, hnames, hends, -⟩ := exists_eq_braced hm hspan
  refine ⟨front, names, rest, hends, hnames, rfl, ?_⟩
  obtain ⟨rfl, rfl⟩ := Prod.mk.inj hends
  rw [extendExisting, h]
  simp [braced]

theorem isSatisfied_extendExisting {rule : ImportRule} (hr : rule.Listable) {text : Text}
    {s e : Cursor} (h : rule.extendable? text = some (s, e)) :
    rule.isSatisfied (rule.extendExisting text) = true := by
  obtain ⟨earlier, m, later, hmatches, -, -, hspan⟩ := firstList_of_extendable? h
  have hm : m ∈ (importsFrom rule.module).matchesIn text := by simp [hmatches]
  obtain ⟨front, old, rest, hends, hold, rfl, hextended⟩ := extendExisting_eq h
  rw [hends] at hspan
  have hnew : '\x7d' ∉ extendList rule.name old :=
    not_mem_extendList (by decide) (by decide) hr.brace_not_mem_name hold
  have hlists : lists rule.name (extendList rule.name old) = true := by
    refine lists_of_mem_entries ?_ hr.name_ne_nil hr.name_ne_type fun c hc => (hr.name_plain c hc).1
    rw [entries_extendList hr.name_ne_nil hr.name_plain]
    simp
  rw [hextended]
  exact isSatisfied_braced hr.brace_not_mem_module hold hnew Iff.rfl hlists hm hspan

theorem exists_extendable?_of_strategy {rule : ImportRule} {text : Text}
    (h : rule.strategy text = some .extendExisting) :
    ∃ s e, rule.extendable? text = some (s, e) := by
  unfold strategy at h
  split_ifs at h with hsatisfied husage hextend
  · obtain ⟨⟨s, e⟩, hspan⟩ := Option.isSome_iff_exists.1 hextend
    exact ⟨s, e, hspan⟩
  all_goals cases h

/-- A name that is added to an import is the last entry of its list, nothing else changes, and
the name is imported then. -/
theorem apply_extends {rule : ImportRule} (hr : rule.Listable) {text : Text}
    (h : rule.strategy text = some .extendExisting) :
    ∃ s e names, FirstList rule.module text s e ∧
      text = s.before.reverse ++ s.textUntil e ++ e.after ∧
      rule.apply text = s.before.reverse ++ names ++ e.after ∧
      entries names = entries (s.textUntil e) ++ [rule.name] ∧
      rule.isSatisfied (rule.apply text) = true ∧ rule.strategy (rule.apply text) = none := by
  obtain ⟨s, e, hspan⟩ := exists_extendable?_of_strategy h
  have happly : rule.apply text = rule.extendExisting text := by rw [apply, h]
  have hsatisfied : rule.isSatisfied (rule.apply text) = true := by
    rw [happly]
    exact isSatisfied_extendExisting hr hspan
  have hnone : rule.strategy (rule.apply text) = none := by rw [strategy, if_pos hsatisfied]
  refine ⟨s, e, extendList rule.name (s.textUntil e), firstList_of_extendable? hspan, ?_, ?_,
    entries_extendList hr.name_ne_nil hr.name_plain _, hsatisfied, hnone⟩
  · obtain ⟨u, body, v, rfl, rfl, rfl⟩ := extendable?_eq_some hspan
    simp
  · rw [happly, extendExisting, hspan]

/-- The list is behind an import of types and inside the braces of an import that is not closed,
it has several lines and ends in a comma. -/
theorem apply_extends_lines :
    let rule : ImportRule := { id := "", trigger := .always, name := ['b'], module := ['m'] }
    let front := "import type \x7b b1 \x7d from 'm'\nimport \x7b\nimport d, \x7b".toList
    let text := front ++ "\n  a,\n\x7d from \"m\"".toList
    let result := front ++ "\n  a,\n  b,\n\x7d from \"m\"".toList
    rule.Listable ∧ rule.strategy text = some .extendExisting ∧ rule.apply text = result ∧
      rule.strategy result = none := by
  intro rule front text result
  have hplain : ∀ c ∈ rule.name, Unicode.isSpace c = false ∧ c ≠ ',' := by
    intro c hc
    obtain rfl := List.mem_singleton.1 hc
    decide
  have hr : rule.Listable :=
    { name_ne_nil := by decide
      name_ne_type := by decide
      name_plain := hplain
      brace_not_mem_name := by simp [rule]
      brace_not_mem_module := by simp [rule] }
  have hstrategy : rule.strategy text = some .extendExisting := by decide +kernel
  have hresult : rule.apply text = result := by decide +kernel
  obtain ⟨s, e, names, -, -, -, -, -, hnone⟩ := apply_extends hr hstrategy
  rw [hresult] at hnone
  exact ⟨hr, hstrategy, hresult, hnone⟩

end ImportRule

end CodeMigration
