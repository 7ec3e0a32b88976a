import CodeMigration.Proofs.DefaultExports
import CodeMigration.Proofs.References

/-!
# CodeMigration.Proofs.DefaultImports

Default imports and the named imports that take their place, as texts. A default import is
read in one way only, as long as the modules have no quotes in their names
(`DefaultImport.append_inj`), and no import begins inside another one, default or named:
the words `import` and `from` may themselves be names, but then what follows them is not
what an import goes on with (`never_begins_tail`, `never_begins_named`). `Begins` is as much
of an import as it takes to see that.
-/

namespace CodeMigration

open Pattern

theorem Pattern.takes_alts_iff {ps : List Pattern} {b w a : Text} {k : Captures} :
    (alts ps).Takes b w a k ↔ ∃ p ∈ ps, p.Takes b w a k := by
  induction ps with
  | nil => simp [alts, takes_one_iff, CharSet.contains]
  | cons p ps ih =>
      cases ps with
      | nil => simp [alts]
      | cons q ps =>
          rw [alts, takes_alt_iff, ih]
          · simp
          · exact List.cons_ne_nil q ps

theorem Pattern.isPlain_alts {ps : List Pattern} (h : ∀ p ∈ ps, p.isPlain = true) :
    (alts ps).isPlain = true := by
  induction ps with
  | nil => rfl
  | cons p ps ih =>
      obtain ⟨hp, hps⟩ := List.forall_mem_cons.1 h
      cases ps with
      | nil => exact hp
      | cons q ps =>
          rw [alts, isPlain, hp, ih hps]
          · rfl
          · exact List.cons_ne_nil q ps

namespace NamedExports

open Lexeme

/-! ### The text of an import -/

/-- The word that an import begins with. -/
def importWord : Text := ['i', 'm', 'p', 'o', 'r', 't']

/-- The word before a module. -/
def fromWord : Text := ['f', 'r', 'o', 'm']

/-- The word before a local name. -/
def asWord : Text := ['a', 's']

theorem toList_import : "import".toList = importWord := rfl

theorem toList_from : "from".toList = fromWord := rfl

/-- Is the character a quote of either kind? -/
def isQuote (c : Char) : Bool := c == '\'' || c == '"'

theorem isSpace_of_isQuote {c : Char} (h : isQuote c = true) : Unicode.isSpace c = false := by
  simp only [isQuote, Bool.or_eq_true, beq_iff_eq] at h
  rcases h with rfl | rfl <;> decide

/-- Texts without quotes and spaces can be told by looking at each character. -/
theorem forall_plain_iff {w : Text} :
    w.all (fun c => !isQuote c && !Unicode.isSpace c) = true ↔
      ∀ c ∈ w, isQuote c = false ∧ Unicode.isSpace c = false := by
  simp

theorem takes_quote_iff {b w a : Text} {k : Captures} :
    quote.Takes b w a k ↔ (∃ c, w = [c] ∧ isQuote c = true) ∧ k = [] := by
  simp only [quote, takes_one_iff, CharSet.contains_ofList, isQuote, List.mem_cons,
    List.not_mem_nil, or_false, Bool.or_eq_true, beq_iff_eq, ← and_assoc, exists_and_right]

/-- A default import. -/
structure DefaultImport where
  /-- The space before the local name. -/
  gap : Text
  /-- The name under which the module is imported. -/
  localName : Text
  /-- The space behind the local name. -/
  nameGap : Text
  /-- The space before the module. -/
  quoteGap : Text
  /-- The quote before the module. -/
  opening : Char
  /-- The module. -/
  module : Text
  /-- The quote behind the module. -/
  closing : Char
  /-- There is space before the local name. -/
  spaces1_gap : Spaces1 gap
  /-- The local name is a name. -/
  identifier_localName : Identifier localName
  /-- There is space behind the local name. -/
  spaces1_nameGap : Spaces1 nameGap
  /-- There is space before the module. -/
  spaces1_quoteGap : Spaces1 quoteGap
  /-- A quote stands before the module. -/
  isQuote_opening : isQuote opening = true
  /-- A quote stands behind the module. -/
  isQuote_closing : isQuote closing = true

namespace DefaultImport

/-- The import as it is written. -/
def text (d : DefaultImport) : Text :=
  importWord ++ d.gap ++ d.localName ++ d.nameGap ++ fromWord ++ d.quoteGap ++
    d.opening :: d.module ++ [d.closing]

theorem text_append (d : DefaultImport) (r : Text) :
    d.text ++ r = importWord ++ (d.gap ++ (d.localName ++ (d.nameGap ++ (fromWord ++
      (d.quoteGap ++ ([d.opening] ++ (d.module ++ ([d.closing] ++ r)))))))) := by
  simp only [text, List.append_assoc, List.cons_append, List.nil_append]

/-- What the module is imported as when it exports the name. -/
def binding (d : DefaultImport) (exported : Text) : Text :=
  if exported = d.localName then exported
  else exported ++ ' ' :: asWord ++ ' ' :: d.localName

/-- The named import of what the module exports. -/
def named (d : DefaultImport) (exported : Text) : Text :=
  importWord ++ [' ', '\x7b', ' '] ++ d.binding exported ++ [' ', '\x7d', ' '] ++ fromWord ++
    ' ' :: d.opening :: d.module ++ [d.closing]

end DefaultImport

theorem takes_specifiers_iff {specifiers : List Text} {b w a : Text} {k : Captures} :
    (alts (specifiers.map Pattern.word)).Takes b w a k ↔ w ∈ specifiers ∧ k = [] := by
  simp only [takes_alts_iff, List.mem_map, exists_exists_and_eq_and, takes_word_iff]
  constructor
  · rintro ⟨m, hm, rfl, rfl⟩
    exact ⟨hm, rfl⟩
  · rintro ⟨hm, rfl⟩
    exact ⟨w, hm, rfl, rfl⟩

/-- The text of a single character that was captured last. -/
theorem group_taken_one {b w a c e : Text} {x : Char} {k : Captures} {i : Nat} (hi : i ≠ 0) :
    (Match.taken b w a ((i, .between c (x :: e), .between (x :: c) e) :: k)).group i = [x] :=
  Match.group_taken (d := [x]) hi

/-- The word `import` begins where no word goes on. -/
theorem holds_boundary_import {b z : Text} :
    (Anchor.wordBoundary Unicode.isWord).holds (.between b (importWord ++ z)) = true ↔
      Anchor.nearest Unicode.isWord b = false :=
  holds_wordBoundary_iff (by decide)

/-- What the pattern for default imports takes. -/
theorem takes_defaultImport {specifiers : List Text} {b w r : Text} {k : Captures}
    (h : (defaultImport specifiers).Takes b w r k) :
    Anchor.nearest Unicode.isWord b = false ∧
      ∃ d : DefaultImport, w = d.text ∧ d.module ∈ specifiers ∧
        (Match.taken b w r k).group localGroup = d.localName ∧
        (Match.taken b w r k).group openGroup = [d.opening] ∧
        (Match.taken b w r k).group moduleGroup = d.module ∧
        (Match.taken b w r k).group closeGroup = [d.closing] := by
  simp only [defaultImport, takes_seqs_iff, boundary, takesAll_look_cons, takesAll_literal_cons,
    takesAll_blanks1_cons, takesAll_group_cons, takesAll_nil, takes_identifier_iff,
    takes_quote_iff, takes_specifiers_iff, toList_import, toList_from] at h
  obtain ⟨hb, v, rfl, h⟩ := h
  rw [List.append_assoc, holds_boundary_import] at hb
  obtain ⟨s, _, rfl, hs, x, _, _, _, rfl, ⟨hx, rfl⟩, hname, rfl⟩ := h
  obtain ⟨t, _, rfl, ht, _, rfl, u, _, rfl, hu, _, _, _, _, rfl, ⟨⟨q, rfl, hq⟩, rfl⟩, hopen, rfl⟩ :=
    hname
  obtain ⟨m, _, _, _, rfl, ⟨hm, rfl⟩, hmodule, rfl⟩ := hopen
  obtain ⟨_, _, _, _, rfl, ⟨⟨q', rfl, hq'⟩, rfl⟩, ⟨rfl, rfl⟩, rfl⟩ := hmodule
  refine ⟨hb, ⟨s, x, t, u, q, m, q', hs, hx, ht, hu, hq, hq'⟩, by simp [DefaultImport.text], hm,
    ?_⟩
  -- The groups are captured in order, so each of them is under those behind it.
  refine ⟨?_, ?_, ?_, ?_⟩ <;>
    simp (disch := decide) only [Match.group_taken_cons, Match.group_taken, group_taken_one,
      List.append_assoc, List.cons_append, List.nil_append, List.reverse_singleton]

/-- A default import begins where no word goes on. -/
theorem fits_defaultImport_iff {specifiers : List Text} {b a : Text} :
    (defaultImport specifiers).Fits b a ↔ Anchor.nearest Unicode.isWord b = false ∧
      ∃ (d : DefaultImport) (r : Text), a = d.text ++ r ∧ d.module ∈ specifiers := by
  constructor
  · rintro ⟨w, r, k, rfl, h⟩
    obtain ⟨hb, d, rfl, hm, -⟩ := takes_defaultImport h
    exact ⟨hb, d, r, rfl, hm⟩
  · rintro ⟨hb, d, r, rfl, hm⟩
    simp only [defaultImport, fits_seqs_iff, boundary, fitsAll_look_cons, fitsAll_literal_cons,
      fitsAll_blanks1_cons, fitsAll_group_cons, fitsAll_identifier_cons,
      fitsAll_cons_of_free fun _ _ _ _ => takes_quote_iff,
      fitsAll_cons_of_free fun _ _ _ _ => takes_specifiers_iff, fitsAll_nil, and_true,
      toList_import, toList_from]
    rw [d.text_append, holds_boundary_import]
    exact ⟨hb, _, rfl, d.gap, _, rfl, d.spaces1_gap, d.localName, _, rfl, d.identifier_localName,
      d.nameGap, _, rfl, d.spaces1_nameGap, _, rfl, d.quoteGap, _, rfl, d.spaces1_quoteGap,
      [d.opening], _, rfl, ⟨_, rfl, d.isQuote_opening⟩, d.module, _, rfl, hm, [d.closing], r, rfl,
      ⟨_, rfl, d.isQuote_closing⟩⟩

theorem isPlain_defaultImport (specifiers : List Text) :
    (defaultImport specifiers).isPlain = true := by
  have hmodules : (alts (specifiers.map Pattern.word)).isPlain = true :=
    isPlain_alts (by simp [Pattern.isPlain])
  simp [defaultImport, seqs, Pattern.isPlain, hmodules, identifier, blanks1, many1, many, literal,
    boundary, quote]

theorem isSolid_defaultImport (specifiers : List Text) :
    (defaultImport specifiers).isSolid = true := by
  simp [defaultImport, seqs, Pattern.isSolid, literal]

/-! ### Imports are clear from the text -/

theorem identifier_from : Identifier fromWord :=
  ⟨_, _, rfl, by decide, List.all_eq_true.1 (by decide)⟩

theorem identifier_as : Identifier asWord :=
  ⟨_, _, rfl, by decide, List.all_eq_true.1 (by decide)⟩

/-- There is one way only to read a default import. -/
theorem DefaultImport.append_inj {d e : DefaultImport} {r t : Text}
    (hd : ∀ c ∈ d.module, isQuote c = false) (he : ∀ c ∈ e.module, isQuote c = false)
    (h : d.text ++ r = e.text ++ t) : d = e ∧ r = t := by
  rw [d.text_append, e.text_append] at h
  have h₁ := List.append_cancel_left h
  obtain ⟨s, x, u, v, q, m, q', hs, hx, hu, hv, hq, hq'⟩ := d
  obtain ⟨s₂, x₂, u₂, v₂, q₂, m₂, q₂', hs₂, hx₂, hu₂, hv₂, hq₂, hq₂'⟩ := e
  dsimp only at h₁ hd he
  obtain ⟨rfl, h₂⟩ := hs.1.append_identifier_inj hs₂.1 hx hx₂ h₁
  obtain ⟨rfl, h₃⟩ := hu.word_inj hu₂ hx hx₂ h₂
  obtain ⟨rfl, h₄⟩ := hu.1.append_identifier_inj hu₂.1 identifier_from identifier_from h₃
  obtain ⟨rfl, rfl, h₅⟩ := hv.1.append_inj hv₂.1 (isSpace_of_isQuote hq) (isSpace_of_isQuote hq₂)
    (List.append_cancel_left h₄)
  obtain ⟨rfl, rfl, rfl⟩ := append_cons_inj hd he (by simp [hq']) (by simp [hq₂']) h₅
  exact ⟨rfl, rfl⟩

/-- A named import is no default import: a brace is not the start of a name. -/
theorem DefaultImport.named_append_ne (d e : DefaultImport) {exported r t : Text} :
    d.named exported ++ r ≠ e.text ++ t := by
  intro h
  obtain ⟨c, v, hname, hc, -⟩ := e.identifier_localName
  rw [e.text_append, hname] at h
  simp only [named, List.append_assoc] at h
  obtain ⟨-, rfl, -⟩ := spaces1_blank.1.append_inj e.spaces1_gap.1 (by decide)
    (isSpace_of_identifierStart hc) (List.append_cancel_left h)
  exact absurd hc (by decide)

/-! ### No import begins inside another -/

/-- What stands behind the word `import` and its space: a list in braces, or a name with the
word `from` and a quote behind it. -/
def Clause (z : Text) : Prop :=
  (∃ r, z = '\x7b' :: r) ∨ ∃ x t u q r, z = x ++ (t ++ (fromWord ++ (u ++ q :: r))) ∧
    Identifier x ∧ Spaces1 t ∧ Spaces1 u ∧ isQuote q = true

/-- Space, and then what an import goes on with. -/
def Follows (y : Text) : Prop := ∃ s z, y = s ++ z ∧ Spaces1 s ∧ Clause z

/-- An import begins here. -/
def Begins (y : Text) : Prop := ∃ r, y = importWord ++ r ∧ Follows r

theorem DefaultImport.begins (d : DefaultImport) (r : Text) : Begins (d.text ++ r) := by
  rw [d.text_append]
  exact ⟨_, rfl, d.gap, _, rfl, d.spaces1_gap, .inr ⟨d.localName, d.nameGap, d.quoteGap, d.opening,
    _, rfl, d.identifier_localName, d.spaces1_nameGap, d.spaces1_quoteGap, d.isQuote_opening⟩⟩

theorem DefaultImport.begins_named (d : DefaultImport) (exported r : Text) :
    Begins (d.named exported ++ r) := by
  refine ⟨[' '] ++ '\x7b' :: (' ' :: d.binding exported ++ [' ', '\x7d', ' '] ++ fromWord ++
    ' ' :: d.opening :: d.module ++ [d.closing] ++ r), by simp [DefaultImport.named], [' '], _, rfl,
    spaces1_blank, .inl ⟨_, rfl⟩⟩

theorem Clause.exists_cons {z : Text} (h : Clause z) :
    ∃ c r, z = c :: r ∧ Unicode.isSpace c = false ∧
      (c = '\x7b' ∨ identifierStart.contains c = true) := by
  rcases h with ⟨r, rfl⟩ | ⟨x, t, u, q, r, rfl, ⟨c, v, rfl, hc, -⟩, -⟩
  · exact ⟨_, r, rfl, by decide, .inl rfl⟩
  · exact ⟨c, _, rfl, isSpace_of_identifierStart hc, .inr hc⟩

/-- What goes on behind space is clear from the text. -/
theorem clause_of_follows {s r : Text} {c : Char} (hs : Spaces s) (hc : Unicode.isSpace c = false)
    (h : Follows (s ++ c :: r)) : Clause (c :: r) := by
  obtain ⟨t, z, heq, ht, hz⟩ := h
  obtain ⟨d, v, rfl, hd, -⟩ := hz.exists_cons
  obtain ⟨-, rfl, rfl⟩ := hs.append_inj ht.1 hc hd heq
  exact hz

theorem not_clause_brace (r : Text) : ¬ Clause ('\x7d' :: r) := by
  intro h
  obtain ⟨c, v, heq, -, hc⟩ := h.exists_cons
  obtain ⟨rfl, -⟩ := List.cons.inj heq
  exact absurd hc (by decide)

/-- A name before the word `from` is followed by no quote. -/
theorem not_clause_from {u r : Text} {q : Char} (hu : Spaces1 u) (hq : isQuote q = true) :
    ¬ Clause (fromWord ++ (u ++ q :: r)) := by
  rintro (⟨v, heq⟩ | ⟨x, t, u', q', v, heq, hx, ht, -, -⟩)
  · simp [fromWord] at heq
  · obtain ⟨-, hrest⟩ := hu.word_inj ht identifier_from hx heq
    obtain ⟨-, rfl, -⟩ := hu.1.append_inj ht.1 (isSpace_of_isQuote hq) (y := 'f') (by decide) hrest
    exact absurd hq (by decide)

/-- Behind a renamed binding there is a brace and no quote, whatever the names are. -/
theorem not_clause_as {x r : Text} (hx : Identifier x) :
    ¬ Clause (asWord ++ ([' '] ++ (x ++ ([' '] ++ '\x7d' :: r)))) := by
  rintro (⟨v, heq⟩ | ⟨y, t, u, q, v, heq, hy, ht, hu, hq⟩)
  · simp [asWord] at heq
  · obtain ⟨-, hname⟩ := spaces1_blank.word_inj ht identifier_as hy heq
    obtain ⟨-, hfrom⟩ := spaces1_blank.1.append_identifier_inj ht.1 hx identifier_from hname
    obtain ⟨-, hquote⟩ := spaces1_blank.word_inj hu hx identifier_from hfrom
    obtain ⟨-, rfl, -⟩ := spaces1_blank.1.append_inj hu.1 (by decide) (isSpace_of_isQuote hq) hquote
    exact absurd hq (by decide)

theorem never_begins_of_not_mem {w : Text} (h : 'i' ∉ w) : Never Begins w := by
  rintro u v t rfl hv ⟨r, heq, -⟩
  cases v with
  | nil => exact hv rfl
  | cons c v =>
      obtain ⟨rfl, -⟩ : c = 'i' ∧ _ := List.cons.inj heq
      exact h (by simp)

theorem never_begins_spaces {s : Text} (h : Spaces s) : Never Begins s :=
  never_begins_of_not_mem fun hi => absurd (h 'i' hi) (by decide)

theorem never_begins_quote {q : Char} (h : isQuote q = true) : Never Begins [q] := by
  refine never_begins_of_not_mem fun hi => ?_
  obtain rfl := List.mem_singleton.1 hi
  exact absurd h (by decide)

/-- In a name no import begins if what stands behind it does not go on with one. -/
theorem never_begins_name {y z : Text} {c : Char} (hy : ∀ c ∈ y, identifierPart.contains c = true)
    (hc : identifierPart.contains c = false) (hgo : ∀ t, ¬ Follows (c :: z ++ t))
    (hz : Never Begins (c :: z)) : Never Begins (y ++ c :: z) := by
  induction y with
  | nil => exact hz
  | cons a y ih =>
      refine (ih (List.forall_mem_cons.1 hy).2).cons fun t => ?_
      rintro ⟨_, heq, s, v, rfl, hs, hv⟩
      obtain ⟨d, u, hd, -, hdpart⟩ := hs.exists_cons v
      rw [hd] at heq
      obtain ⟨-, rfl, hrest⟩ := append_cons_inj (P := fun c => identifierPart.contains c = true)
        (s := a :: y) (t := importWord) (u := z ++ t) (v := u) (x := c) (y := d) hy
        (List.all_eq_true.1 (by decide)) (by simp [hc]) (by simp [hdpart]) (by simpa using heq)
      refine hgo t ?_
      rw [List.cons_append, hrest, ← hd]
      exact ⟨s, v, rfl, hs, hv⟩

/-- In a module between quotes no import begins, for there is no space in it. -/
theorem never_begins_module {m : Text} {q : Char}
    (hm : ∀ c ∈ m, isQuote c = false ∧ Unicode.isSpace c = false) (hq : isQuote q = true) :
    Never Begins (m ++ [q]) := by
  induction m with
  | nil => exact never_begins_quote hq
  | cons a m ih =>
      refine (ih (List.forall_mem_cons.1 hm).2).cons fun t => ?_
      rintro ⟨_, heq, s, v, rfl, hs, -⟩
      obtain ⟨d, u, hd, hspace, -⟩ := hs.exists_cons v
      rw [hd] at heq
      obtain ⟨-, rfl, -⟩ := append_cons_inj
        (P := fun c => isQuote c = false ∧ Unicode.isSpace c = false)
        (s := a :: m) (t := importWord) (u := t) (v := u) (x := q) (y := d) hm
        (forall_plain_iff.1 (by decide)) (by simp [hq]) (by simp [hspace]) (by simpa using heq)
      rw [isSpace_of_isQuote hq] at hspace
      cases hspace

section

variable {d : DefaultImport}
  (hmodule : ∀ c ∈ d.module, isQuote c = false ∧ Unicode.isSpace c = false)

include hmodule

/-- No import begins inside a default import. -/
theorem DefaultImport.never_begins_tail :
    ∃ w, d.text = 'i' :: w ∧ Never Begins w := by
  have hword : Never Begins (importWord.tail ++ d.gap) :=
    (never_begins_of_not_mem (by decide)).append (never_begins_spaces d.spaces1_gap.1)
  obtain ⟨c, v, hcv, hspace, hpart⟩ :=
    d.spaces1_nameGap.exists_cons (fromWord ++ (d.quoteGap ++ [d.opening]))
  have hname : Never Begins (d.localName ++ c :: v) := by
    refine never_begins_name d.identifier_localName.forall_mem hpart (fun t h => ?_) ?_
    · rw [← hcv] at h
      refine not_clause_from (r := t) d.spaces1_quoteGap d.isQuote_opening ?_
      simp only [List.append_assoc, List.cons_append, List.nil_append] at h ⊢
      exact clause_of_follows d.spaces1_nameGap.1 (by decide) h
    · rw [← hcv]
      exact (never_begins_spaces d.spaces1_nameGap.1).append
        ((never_begins_of_not_mem (by decide)).append
          ((never_begins_spaces d.spaces1_quoteGap.1).append
            (never_begins_quote d.isQuote_opening)))
  refine ⟨_, ?_, (hword.append hname).append (never_begins_module hmodule d.isQuote_closing)⟩
  rw [← hcv]
  simp [DefaultImport.text, importWord]

/-- No default import begins in a named one. -/
theorem DefaultImport.never_begins_named {exported : Text} (he : Identifier exported) :
    ∃ w, d.named exported = 'i' :: w ∧ Never Begins w := by
  have hbrace : Never Begins (' ' :: '\x7d' :: ' ' :: fromWord ++ [' ']) :=
    never_begins_of_not_mem (by decide)
  have hnot : ∀ t, ¬ Follows (' ' :: '\x7d' :: ' ' :: fromWord ++ [' '] ++ t) := fun t h =>
    not_clause_brace _ (clause_of_follows (s := [' ']) spaces1_blank.1 (by decide) h)
  have hbinding :
      Never Begins (d.binding exported ++ ' ' :: '\x7d' :: ' ' :: fromWord ++ [' ']) := by
    rw [List.append_assoc]
    unfold binding
    split
    · exact never_begins_name he.forall_mem (by decide) hnot hbrace
    · have hlocal := never_begins_name d.identifier_localName.forall_mem (by decide) hnot hbrace
      have has : Never Begins (' ' :: asWord ++ [' ']) := never_begins_of_not_mem (by decide)
      have hrest := has.append hlocal
      simp only [List.append_assoc, List.cons_append, List.nil_append] at hrest ⊢
      refine never_begins_name he.forall_mem (by decide) (fun t h => ?_) hrest
      refine not_clause_as (r := ' ' :: fromWord ++ ' ' :: t) d.identifier_localName ?_
      simp only [List.append_assoc, List.cons_append, List.nil_append] at h ⊢
      exact clause_of_follows (s := [' ']) spaces1_blank.1 (by decide) h
  have hbraces : Never Begins (importWord.tail ++ [' ', '\x7b', ' ']) :=
    never_begins_of_not_mem (by decide)
  refine ⟨_, ?_, ((hbraces.append hbinding).append (never_begins_quote d.isQuote_opening)).append
    (never_begins_module hmodule d.isQuote_closing)⟩
  simp [DefaultImport.named, importWord]

end

end NamedExports

end CodeMigration
