import CodeMigration.Migration.PrefetchLink
import CodeMigration.Proofs.Lexemes

/-!
# CodeMigration.Proofs.LinkValues

The values that the attribute of a link can have. Whether a text is a value depends on
its quotes and braces alone: a text with the same marks in the same order between the
same ends is a value of the same form. A `Form` says so of a pattern for values.
-/

namespace CodeMigration.PrefetchLink

open Pattern

/-- Is the character a quote or a brace? -/
def isMark (c : Char) : Bool := ['"', '\'', '\x7b', '\x7d'].contains c

/-- The quotes and braces of a text. -/
def marks (t : Text) : Text := t.filter isMark

@[simp] theorem marks_append (s t : Text) : marks (s ++ t) = marks s ++ marks t :=
  List.filter_append s t

theorem mem_marks {c : Char} (hc : isMark c = true) {t : Text} : c ∈ marks t ↔ c ∈ t := by
  simp [marks, hc]

/-- A form of values. -/
structure Form where
  /-- The values of this form. -/
  value : Pattern
  /-- The texts that are values of this form. -/
  IsValue : Text → Prop
  /-- The marks that a value can begin with. -/
  initials : List Char
  /-- The pattern takes the values and captures nothing. -/
  takes_iff : ∀ b w a k, value.Takes b w a k ↔ IsValue w ∧ k = []
  /-- A value stands between marks. -/
  exists_ends : ∀ v, IsValue v → ∃ q u q', v = q :: u ++ [q'] ∧ q ∈ initials ∧ isMark q' = true
  /-- What begins a value is a mark. -/
  isMark_initial : ∀ q ∈ initials, isMark q = true
  /-- Only the marks between the ends matter. -/
  of_marks_eq : ∀ q u u' q', marks u' = marks u → IsValue (q :: u ++ [q']) →
    IsValue (q :: u' ++ [q'])
  /-- The pattern has no marks. -/
  isPlain : value.isPlain = true

/-- Where a value of the form ends is clear from the text. -/
def Form.PrefixFree (F : Form) : Prop :=
  ∀ v v' r r', F.IsValue v → F.IsValue v' → v ++ r = v' ++ r' → v = v'

/-! ### Strings -/

/-- A string between quotes of one kind that do not occur in it. -/
def IsQuoted (v : Text) : Prop := ∃ q u, v = q :: u ++ [q] ∧ q ∈ ['"', '\''] ∧ q ∉ u

theorem takes_between_quotes_iff {q : Char} {b w a : Text} {k : Captures} :
    (seqs [.word [q], .many (.noneOf [q]), .word [q]]).Takes b w a k ↔
      (∃ u, w = q :: u ++ [q] ∧ q ∉ u) ∧ k = [] := by
  simp only [takes_seqs_iff, takesAll_word_cons,
    takesAll_cons_of_free fun _ _ _ _ => takes_run_iff, takesAll_nil, many, CharSet.contains_noneOf,
    List.mem_singleton]
  constructor
  · rintro ⟨_, rfl, u, _, rfl, hu, _, rfl, rfl, rfl⟩
    exact ⟨⟨u, by simp, fun h => hu q h rfl⟩, rfl⟩
  · rintro ⟨⟨u, rfl, hu⟩, rfl⟩
    exact ⟨u ++ [q], by simp, u, [q], rfl, fun x hx h => hu (h ▸ hx), [], rfl, rfl, rfl⟩

theorem takes_quotedValue_iff (b w a : Text) (k : Captures) :
    quotedValue.Takes b w a k ↔ IsQuoted w ∧ k = [] := by
  have hcases : quotedValue.Takes b w a k ↔ _ := takes_alt_iff.trans
    (or_congr (takes_between_quotes_iff (q := '"')) (takes_between_quotes_iff (q := '\'')))
  rw [hcases]
  constructor
  · rintro (⟨⟨u, rfl, hu⟩, rfl⟩ | ⟨⟨u, rfl, hu⟩, rfl⟩)
    · exact ⟨⟨_, u, rfl, by simp, hu⟩, rfl⟩
    · exact ⟨⟨_, u, rfl, by simp, hu⟩, rfl⟩
  · rintro ⟨⟨q, u, rfl, hq, hu⟩, rfl⟩
    simp only [List.mem_cons, List.not_mem_nil, or_false] at hq
    rcases hq with rfl | rfl
    · exact .inl ⟨⟨u, rfl, hu⟩, rfl⟩
    · exact .inr ⟨⟨u, rfl, hu⟩, rfl⟩

theorem isMark_of_mem_quotes : ∀ q ∈ ['"', '\''], isMark q = true :=
  List.all_eq_true.1 (by decide)

/-- Links given by a string. -/
def quoted : Form where
  value := quotedValue
  IsValue := IsQuoted
  initials := ['"', '\'']
  takes_iff := takes_quotedValue_iff
  exists_ends := by
    rintro _ ⟨q, u, rfl, hq, -⟩
    exact ⟨q, u, q, rfl, hq, isMark_of_mem_quotes q hq⟩
  isMark_initial := isMark_of_mem_quotes
  of_marks_eq := by
    rintro q u u' q' hmarks ⟨q₀, u₀, heq, hq, hu⟩
    obtain ⟨rfl, htail⟩ := List.cons.inj heq
    obtain ⟨rfl, hlast⟩ := List.append_inj' htail rfl
    obtain rfl : q' = q := List.singleton_inj.1 hlast
    have hmark : isMark q' = true := isMark_of_mem_quotes q' hq
    exact ⟨q', u', rfl, hq, fun h => hu ((mem_marks hmark).1 (hmarks ▸ (mem_marks hmark).2 h))⟩
  isPlain := by decide

/-- A string ends at the quote that it begins with. -/
theorem prefixFree_quoted : quoted.PrefixFree := by
  intro v v' r r' hv hv' h
  obtain ⟨q, u, rfl, -, hu⟩ := hv
  obtain ⟨q', u', rfl, -, hu'⟩ := hv'
  obtain ⟨rfl, htail⟩ := List.cons.inj h
  have hends : u ++ q :: r = u' ++ q :: r' := by simpa using htail
  obtain ⟨rfl, -, -⟩ := append_cons_inj (P := fun c => c ≠ q)
    (fun c hc => ne_of_mem_of_not_mem hc hu) (fun c hc => ne_of_mem_of_not_mem hc hu')
    (by simp) (by simp) hends
  rfl

/-! ### Expressions in braces -/

/-- Is the character a brace? -/
def isBrace (c : Char) : Bool := ['\x7b', '\x7d'].contains c

/-- The braces of a text. -/
def braces (t : Text) : Text := t.filter isBrace

/-- Opening and closing braces in turn. -/
inductive Paired : Text → Prop
  | nil : Paired []
  | cons {t : Text} (h : Paired t) : Paired ('\x7b' :: '\x7d' :: t)

theorem Paired.append {s t : Text} (hs : Paired s) (ht : Paired t) : Paired (s ++ t) := by
  induction hs with
  | nil => exact ht
  | cons _ ih => exact .cons ih

theorem braces_eq_of_marks_eq {u u' : Text} (h : marks u' = marks u) : braces u' = braces u := by
  have hfilter : ∀ t : Text, braces t = braces (marks t) := by
    intro t
    rw [braces, braces, marks, List.filter_filter]
    refine List.filter_congr fun c _ => ?_
    cases hc : isBrace c with
    | false => rfl
    | true =>
        have : isMark c = true := by
          simp only [isBrace, isMark, List.contains_iff_mem, List.mem_cons, List.not_mem_nil,
            or_false] at hc ⊢
          exact .inr (.inr hc)
        simp [this]
  rw [hfilter, h, ← hfilter]

/-- Every character but the braces. -/
def plain : CharSet := .noneOf ['\x7b', '\x7d']

/-- A character other than a brace, or two braces with such characters between them. -/
def bracedPart : Pattern := .alt none (.one plain) (.seqs [.literal "\x7b", .many plain, .literal "\x7d"])

theorem contains_plain {x : Char} : plain.contains x = true ↔ isBrace x = false := by
  rw [plain, CharSet.contains_noneOf, ← Bool.not_eq_true, isBrace, List.contains_iff_mem]

theorem braces_eq_nil_iff {u : Text} : braces u = [] ↔ ∀ x ∈ u, plain.contains x = true := by
  simp only [braces, List.filter_eq_nil_iff, contains_plain, Bool.not_eq_true]

theorem takes_bracedPart_iff {b w a : Text} {k : Captures} :
    bracedPart.Takes b w a k ↔
      ((∃ x, w = [x] ∧ plain.contains x = true) ∨
        ∃ u, w = '\x7b' :: u ++ ['\x7d'] ∧ ∀ x ∈ u, plain.contains x = true) ∧ k = [] := by
  simp only [bracedPart, takes_alt_iff, takes_one_iff, takes_seqs_iff, takesAll_literal_cons, many,
    takesAll_cons_of_free fun _ _ _ _ => takes_run_iff, takesAll_nil]
  constructor
  · rintro (⟨x, rfl, hx, rfl⟩ | ⟨_, rfl, u, _, rfl, hu, _, rfl, rfl, rfl⟩)
    · exact ⟨.inl ⟨x, rfl, hx⟩, rfl⟩
    · exact ⟨.inr ⟨u, by simp, hu⟩, rfl⟩
  · rintro ⟨⟨x, rfl, hx⟩ | ⟨u, rfl, hu⟩, rfl⟩
    · exact .inl ⟨x, rfl, hx, rfl⟩
    · exact .inr ⟨u ++ ['\x7d'], by simp, u, ['\x7d'], rfl, hu, [], rfl, rfl, rfl⟩

theorem paired_of_takes {b w a : Text} {k : Captures}
    (h : (star none true bracedPart).Takes b w a k) : Paired (braces w) ∧ k = [] := by
  refine h.star_induction (P := fun w k => Paired (braces w) ∧ k = []) ⟨.nil, rfl⟩ ?_
  rintro b v w a k l hpart ⟨hw, rfl⟩
  obtain ⟨⟨x, rfl, hx⟩ | ⟨u, rfl, hu⟩, rfl⟩ := takes_bracedPart_iff.1 hpart
  · refine ⟨?_, rfl⟩
    rwa [braces, List.singleton_append, List.filter_cons_of_neg (by simp [contains_plain.1 hx])]
  · refine ⟨?_, rfl⟩
    rw [braces, List.filter_append, List.filter_append, List.filter_cons_of_pos (by decide)]
    exact .append (s := '\x7b' :: braces u ++ ['\x7d']) (by
      rw [braces_eq_nil_iff.2 hu]
      exact .cons .nil) hw

theorem takes_of_plain {u w b a : Text} (hu : ∀ x ∈ u, plain.contains x = true)
    (hw : ∀ b, (star none true bracedPart).Takes b w a []) :
    (star none true bracedPart).Takes b (u ++ w) a [] := by
  induction u generalizing b with
  | nil => exact hw b
  | cons x u ih =>
      rw [List.forall_mem_cons] at hu
      exact .starCons (v := [x]) (List.cons_ne_nil x [])
        (takes_bracedPart_iff.2 ⟨.inl ⟨x, rfl, hu.1⟩, rfl⟩) (ih hu.2)

theorem takes_of_paired {t : Text} (ht : Paired t) {w b a : Text} (hw : braces w = t) :
    (star none true bracedPart).Takes b w a [] := by
  induction ht generalizing w b with
  | nil =>
      have := takes_of_plain (b := b) (a := a) (braces_eq_nil_iff.1 hw) fun _ => .starNil
      rwa [List.append_nil] at this
  | cons _ ih =>
      obtain ⟨u, w, rfl, hu, -, hw⟩ := List.filter_eq_cons_iff.1 hw
      obtain ⟨v, w, rfl, hv, -, hw⟩ := List.filter_eq_cons_iff.1 hw
      refine takes_of_plain (fun x hx => contains_plain.2 (by simpa using hu x hx)) fun b => ?_
      have hround : bracedPart.Takes b ('\x7b' :: v ++ ['\x7d']) (w ++ a) [] :=
        takes_bracedPart_iff.2 ⟨.inr ⟨v, rfl,
          fun x hx => contains_plain.2 (by simpa using hv x hx)⟩, rfl⟩
      have hstar : (star none true bracedPart).Takes b ('\x7b' :: v ++ ['\x7d'] ++ w) a [] :=
        .starCons (by simp) hround (ih hw)
      simpa using hstar

/-- An expression in braces in which other braces come in pairs. -/
def IsBraced (v : Text) : Prop := ∃ u, v = '\x7b' :: u ++ ['\x7d'] ∧ Paired (braces u)

theorem takes_bracedValue_iff (b w a : Text) (k : Captures) :
    bracedValue.Takes b w a k ↔ IsBraced w ∧ k = [] := by
  have hstar : ∀ b u r k, (star none true bracedPart).Takes b u r k ↔
      Paired (braces u) ∧ k = [] := fun b u r k =>
    ⟨paired_of_takes, fun h => h.2 ▸ takes_of_paired h.1 rfl⟩
  show (seqs [.literal "\x7b", star none true bracedPart, .literal "\x7d"]).Takes b w a k ↔ _
  simp only [takes_seqs_iff, takesAll_literal_cons, takesAll_cons_of_free hstar, takesAll_nil]
  constructor
  · rintro ⟨_, rfl, u, _, rfl, hu, _, rfl, rfl, rfl⟩
    exact ⟨⟨u, by simp, hu⟩, rfl⟩
  · rintro ⟨⟨u, rfl, hu⟩, rfl⟩
    exact ⟨u ++ ['\x7d'], by simp, u, ['\x7d'], rfl, hu, [], rfl, rfl, rfl⟩

theorem Paired.not_append {s t : Text} (h : Paired s) : ¬ Paired (s ++ '\x7d' :: t) := by
  intro hlonger
  induction h with
  | nil => cases hlonger
  | cons _ ih =>
      cases hlonger with
      | cons hrest => exact ih hrest

/-- Links given by an expression. -/
def braced : Form where
  value := bracedValue
  IsValue := IsBraced
  initials := ['\x7b']
  takes_iff := takes_bracedValue_iff
  exists_ends := by
    rintro _ ⟨u, rfl, -⟩
    exact ⟨_, u, _, rfl, by simp, by decide⟩
  isMark_initial := List.all_eq_true.1 (by decide)
  of_marks_eq := by
    rintro q u u' q' hmarks ⟨u₀, heq, hu⟩
    obtain ⟨rfl, htail⟩ := List.cons.inj heq
    obtain ⟨rfl, hlast⟩ := List.append_inj' htail rfl
    obtain rfl := List.singleton_inj.1 hlast
    exact ⟨u', rfl, by rwa [braces_eq_of_marks_eq hmarks]⟩
  isPlain := by decide

/-- An expression ends at the first brace that is not one of a pair. -/
theorem prefixFree_braced : braced.PrefixFree := by
  intro v v' r r' hv hv' h
  obtain ⟨u, rfl, hu⟩ := hv
  obtain ⟨u', rfl, hu'⟩ := hv'
  have hends : u ++ '\x7d' :: r = u' ++ '\x7d' :: r' := by simpa using h
  -- If one were longer, its braces would be those of the other and a closing one.
  have hsame : ∀ {u w r r' : Text}, Paired (braces u) → Paired (braces (u ++ w)) →
      '\x7d' :: r = w ++ '\x7d' :: r' → w = [] := by
    intro u w r r' hu hboth htail
    cases w with
    | nil => rfl
    | cons c w =>
        obtain ⟨rfl, -⟩ := List.cons.inj htail
        rw [braces, List.filter_append, List.filter_cons_of_pos (by decide)] at hboth
        exact absurd hboth hu.not_append
  rcases List.append_eq_append_iff.1 hends with ⟨w, rfl, htail⟩ | ⟨w, rfl, htail⟩
  · rw [hsame hu hu' htail, List.append_nil]
  · rw [hsame hu' hu htail, List.append_nil]

theorem quoted_ne_braced : ∀ q ∈ quoted.initials, q ∉ braced.initials :=
  List.forall_mem_cons.2 ⟨by decide, List.forall_mem_singleton.2 (by decide)⟩

end CodeMigration.PrefetchLink
