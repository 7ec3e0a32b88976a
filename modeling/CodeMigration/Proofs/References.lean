import CodeMigration.Proofs.Lexemes
import CodeMigration.Proofs.Passes
import CodeMigration.Rule.Reference
import Mathlib.Data.List.Basic

/-!
# CodeMigration.Proofs.References

Redirecting references twice is redirecting them once. A pass of the rule leaves every
binding of a wrapped variable where it is (`ReferenceRule.wrapped_apply`), and the search
for references goes through the result just as it went through the text: where it found a
reference it finds one, redirected or not, and it finds no others
(`ReferenceRule.redirect_eq_text`). A reference that was redirected is one to the raw
value, and the others are none of a wrapped variable.

What could break that is a name that ends right before a reference and makes another with
what takes its place. The search is from left to right, so it would have found the reference
with the longer name first: no name ends where one that is found begins
(`ReferenceRule.unnamed_of_mem_matchesIn`).

References and bindings are both a name, white space, and a character that tells them
apart; `Led` is about that much of them.
-/

namespace CodeMigration

open Lexeme

/-! ### Names and what follows them -/

/-- The text begins with such a name, white space and the given character. -/
def Led (Q : Text → Prop) (d : Char) (y : Text) : Prop :=
  ∃ x s r, y = x ++ s ++ d :: r ∧ Q x ∧ Spaces s

/-- Is the character neither white space nor part of a name? -/
def isStop (c : Char) : Bool := !Unicode.isSpace c && !identifierPart.contains c

theorem isSpace_of_isStop {c : Char} (h : isStop c = true) : Unicode.isSpace c = false := by
  rw [isStop, Bool.and_eq_true, Bool.not_eq_true', Bool.not_eq_true'] at h
  exact h.1

theorem identifierPart_of_isStop {c : Char} (h : isStop c = true) :
    identifierPart.contains c = false := by
  rw [isStop, Bool.and_eq_true, Bool.not_eq_true', Bool.not_eq_true'] at h
  exact h.2

theorem stop_not_mem_of_identifier {c : Char} (hc : isStop c = true) {x : Text}
    (hx : Identifier x) : c ∉ x := fun hmem =>
  absurd (hx.forall_mem c hmem) (by simp [identifierPart_of_isStop hc])

theorem stop_not_mem_of_spaces {c : Char} (hc : isStop c = true) {s : Text} (hs : Spaces s) :
    c ∉ s := fun hmem =>
  absurd (hs c hmem) (by simp [isSpace_of_isStop hc])

/-- White space and a stop behind a name do not go on with it. -/
theorem exists_cons_of_spaces {s t : Text} {e : Char} (hs : Spaces s) (he : isStop e = true) :
    ∃ y z, s ++ e :: t = y :: z ∧ identifierPart.contains y = false := by
  cases s with
  | nil => exact ⟨e, t, rfl, identifierPart_of_isStop he⟩
  | cons y s => exact ⟨y, s ++ e :: t, rfl, identifierPart_of_isSpace (spaces_cons.1 hs).1⟩

/-- A name, the white space behind it and the stop are clear from the text. -/
theorem stop_inj {x y s t u v : Text} {d e : Char}
    (hx : ∀ c ∈ x, identifierPart.contains c = true)
    (hy : ∀ c ∈ y, identifierPart.contains c = true) (hs : Spaces s) (ht : Spaces t)
    (hd : isStop d = true) (he : isStop e = true) (h : x ++ s ++ d :: u = y ++ t ++ e :: v) :
    x = y ∧ s = t ∧ d = e ∧ u = v := by
  obtain ⟨c, z, hz, hc⟩ := exists_cons_of_spaces (t := u) hs hd
  obtain ⟨c', z', hz', hc'⟩ := exists_cons_of_spaces (t := v) ht he
  rw [List.append_assoc, List.append_assoc, hz, hz'] at h
  obtain ⟨rfl, rfl, rfl⟩ := append_cons_inj hx hy (by simp [hc]) (by simp [hc']) h
  obtain ⟨rfl, rfl, rfl⟩ :=
    hs.append_inj ht (isSpace_of_isStop hd) (isSpace_of_isStop he) (hz.trans hz'.symm)
  exact ⟨rfl, rfl, rfl, rfl⟩

theorem not_led_of_not_identifierPart {Q : Text → Prop} (hQ : ∀ x, Q x → Identifier x) {c : Char}
    (hc : identifierPart.contains c = false) {d : Char} {r : Text} : ¬ Led Q d (c :: r) := by
  rintro ⟨y, t, r', heq, hy, -⟩
  have hmem := (hQ y hy).forall_mem
  obtain ⟨c', y, rfl, -, -⟩ := hQ y hy
  obtain ⟨rfl, -⟩ := List.cons.inj heq
  rw [hmem c List.mem_cons_self] at hc
  cases hc

/-- The white space before a name is clear from the text. -/
theorem Spaces.append_identifier_inj {s t x y u v : Text} (hs : Spaces s) (ht : Spaces t)
    (hx : Identifier x) (hy : Identifier y) (h : s ++ (x ++ u) = t ++ (y ++ v)) :
    s = t ∧ x ++ u = y ++ v := by
  obtain ⟨c, x, rfl, hc, -⟩ := hx
  obtain ⟨d, y, rfl, hd, -⟩ := hy
  obtain ⟨rfl, -, -⟩ :=
    hs.append_inj ht (isSpace_of_identifierStart hc) (isSpace_of_identifierStart hd) h
  exact ⟨rfl, List.append_cancel_left h⟩

/-- White space behind a name does not go on with it. -/
theorem Spaces1.exists_cons {s : Text} (h : Spaces1 s) (t : Text) :
    ∃ c u, s ++ t = c :: u ∧ Unicode.isSpace c = true ∧ identifierPart.contains c = false := by
  obtain ⟨hs, hne⟩ := h
  cases s with
  | nil => exact absurd rfl hne
  | cons c s =>
      have hc := (spaces_cons.1 hs).1
      exact ⟨c, s ++ t, rfl, hc, identifierPart_of_isSpace hc⟩

/-- A word with white space behind it is clear from the text. -/
theorem Spaces1.word_inj {x y s t u v : Text} (hs : Spaces1 s) (ht : Spaces1 t) (hx : Identifier x)
    (hy : Identifier y) (h : x ++ (s ++ u) = y ++ (t ++ v)) : x = y ∧ s ++ u = t ++ v := by
  obtain ⟨c, s', hc, -, hpart⟩ := hs.exists_cons u
  obtain ⟨d, t', hd, -, hpart'⟩ := ht.exists_cons v
  rw [hc, hd] at h ⊢
  obtain ⟨rfl, rfl, rfl⟩ := hx.append_inj hy hpart hpart' h
  exact ⟨rfl, rfl⟩

/-- In white space and the stop behind it no such name begins. -/
theorem not_led_of_spaces {Q : Text → Prop} (hQ : ∀ x, Q x → Identifier x) {s u v r : Text}
    {d e : Char} (hs : Spaces s) (he : isStop e = true) (h : s ++ [e] = u ++ v) (hv : v ≠ []) :
    ¬ Led Q d (v ++ r) := by
  obtain ⟨c, v, rfl⟩ := List.exists_cons_of_ne_nil hv
  have hmem : c ∈ s ++ [e] := by simp [h]
  have hpart : identifierPart.contains c = false := by
    rcases List.mem_append.1 hmem with hmem | hmem
    · exact identifierPart_of_isSpace (hs c hmem)
    · obtain rfl := List.mem_singleton.1 hmem
      exact identifierPart_of_isStop he
  exact not_led_of_not_identifierPart hQ hpart

/-- Where such a name begins in a name with white space and a stop behind it, it is the rest of
that name. -/
theorem exists_of_led_name {Q : Text → Prop} (hQ : ∀ x, Q x → Identifier x) {x s u v r : Text}
    {d e : Char} (hx : ∀ c ∈ x, identifierPart.contains c = true) (hs : Spaces s)
    (hd : isStop d = true) (he : isStop e = true) (h : x ++ (s ++ [e]) = u ++ v) (hv : v ≠ [])
    (hled : Led Q d (v ++ r)) : ∃ q, x = u ++ q ∧ Q q ∧ d = e := by
  induction x generalizing u with
  | nil => exact absurd hled (not_led_of_spaces hQ hs he h hv)
  | cons c x ih =>
      cases u with
      | nil =>
          obtain rfl : c :: x ++ (s ++ [e]) = v := h
          obtain ⟨y, t', r', heq, hy, ht'⟩ := hled
          obtain ⟨hxy, -, hed, -⟩ := stop_inj hx (hQ y hy).forall_mem hs ht' he hd
            (by simpa using heq)
          exact ⟨c :: x, rfl, hxy ▸ hy, hed.symm⟩
      | cons d u =>
          obtain ⟨rfl, htail⟩ := List.cons.inj h
          obtain ⟨q, hxq, hq⟩ := ih (List.forall_mem_cons.1 hx).2 htail
          exact ⟨q, by rw [hxq]; rfl, hq⟩

/-- Where such a name begins in a name between white space, it is the rest of that name. -/
theorem exists_of_led {Q : Text → Prop} (hQ : ∀ x, Q x → Identifier x) {t x s u v r : Text}
    {d e : Char} (ht : Spaces t) (hx : ∀ c ∈ x, identifierPart.contains c = true) (hs : Spaces s)
    (hd : isStop d = true) (he : isStop e = true) (h : t ++ (x ++ (s ++ [e])) = u ++ v)
    (hv : v ≠ []) (hled : Led Q d (v ++ r)) :
    ∃ p q, x = p ++ q ∧ u = t ++ p ∧ Q q ∧ d = e := by
  induction t generalizing u with
  | nil =>
      obtain ⟨q, hxq, hq⟩ := exists_of_led_name hQ hx hs hd he h hv hled
      exact ⟨u, q, hxq, rfl, hq⟩
  | cons c t ih =>
      obtain ⟨hc, ht⟩ := spaces_cons.1 ht
      cases u with
      | nil =>
          obtain rfl : c :: t ++ (x ++ (s ++ [e])) = v := h
          exact absurd hled (not_led_of_not_identifierPart hQ (identifierPart_of_isSpace hc))
      | cons d u =>
          obtain ⟨rfl, htail⟩ := List.cons.inj h
          obtain ⟨p, q, hpq, hu, hq⟩ := ih ht htail
          exact ⟨p, q, hpq, by rw [hu]; rfl, hq⟩

/-- In a name between white space no such name begins if another stop follows, or if the
name does not end in one. -/
theorem never_led {Q : Text → Prop} (hQ : ∀ x, Q x → Identifier x) {t x s : Text} {d e : Char}
    (ht : Spaces t) (hx : ∀ c ∈ x, identifierPart.contains c = true) (hs : Spaces s)
    (hd : isStop d = true) (he : isStop e = true) (hne : ∀ v, v <:+ x → Q v → d ≠ e) :
    Never (Led Q d) (t ++ x ++ s ++ [e]) := by
  intro u v r huv hv hled
  obtain ⟨p, q, rfl, -, hq, hde⟩ := exists_of_led hQ ht hx hs hd he (by simpa using huv) hv hled
  exact hne q (List.suffix_append p q) hq hde

/-- No name ends right before the place. The text before it is reversed. -/
def Unnamed (b : Text) : Prop := ∀ y, Identifier y → ¬ y.reverse <+: b

namespace ReferenceRule

open Pattern Piece

/-- The words that the rule is about are names, and the member does not have that of the raw
value. -/
structure WellNamed (rule : ReferenceRule) : Prop where
  /-- The wrapper has a name. -/
  wrapper : Identifier rule.wrapper
  /-- The raw value has a name. -/
  target : Identifier rule.target
  /-- The member has a name. -/
  accessor : Identifier rule.accessor
  /-- The member is not called like the raw value. -/
  target_ne : rule.target ≠ rule.accessor

/-- The word is a reference to the member of the variable. -/
def IsReference (rule : ReferenceRule) (x w : Text) : Prop :=
  Identifier x ∧ ∃ s t u, w = x ++ s ++ '.' :: (t ++ rule.accessor ++ u ++ ['.']) ∧
    Spaces s ∧ Spaces t ∧ Spaces u

/-- The word binds the variable to the wrapped value. -/
def IsBinding (rule : ReferenceRule) (x w : Text) : Prop :=
  Identifier x ∧ ∃ s t u v, w = x ++ s ++ '=' ::
    (t ++ rule.wrapper ++ '(' :: (u ++ rule.target ++ v ++ [')'])) ∧
    Spaces s ∧ Spaces t ∧ Spaces u ∧ Spaces v

theorem takes_reference {rule : ReferenceRule} {b w r : Text} {k : Captures}
    (h : rule.reference.Takes b w r k) :
    rule.IsReference ((Match.taken b w r k).group nameGroup) w := by
  simp only [reference, takes_seqs_iff, takesAll_group_cons, takesAll_blanks_cons,
    takesAll_literal_cons, takesAll_word_cons, takesAll_nil, takes_identifier_iff] at h
  obtain ⟨x, _, _, _, rfl, ⟨hx, rfl⟩, ⟨s, _, rfl, hs, _, rfl, t, _, rfl, ht, _, rfl, u, _, rfl, hu,
    _, rfl, rfl, rfl⟩, rfl⟩ := h
  rw [List.nil_append, Match.group_taken (by decide)]
  exact ⟨hx, s, t, u, by simp, hs, ht, hu⟩

theorem fits_reference_iff {rule : ReferenceRule} {b a : Text} :
    rule.reference.Fits b a ↔ ∃ x w r, a = w ++ r ∧ rule.IsReference x w := by
  constructor
  · rintro ⟨w, r, k, rfl, h⟩
    exact ⟨_, w, r, rfl, takes_reference h⟩
  · rintro ⟨x, _, r, rfl, hx, s, t, u, rfl, hs, ht, hu⟩
    simp only [reference, fits_seqs_iff, fitsAll_group_cons, fitsAll_identifier_cons,
      fitsAll_blanks_cons, fitsAll_literal_cons, fitsAll_word_cons, fitsAll_nil, and_true]
    exact ⟨x, s ++ '.' :: (t ++ (rule.accessor ++ (u ++ '.' :: r))), by simp, hx, s, _, rfl, hs, _,
      rfl, t, _, rfl, ht, _, rfl, u, '.' :: r, rfl, hu, r, rfl⟩

theorem takes_binding {rule : ReferenceRule} {b w r : Text} {k : Captures}
    (h : rule.binding.Takes b w r k) :
    rule.IsBinding ((Match.taken b w r k).group nameGroup) w := by
  simp only [binding, takes_seqs_iff, takesAll_group_cons, takesAll_blanks_cons,
    takesAll_literal_cons, takesAll_word_cons, takesAll_nil, takes_identifier_iff] at h
  obtain ⟨x, _, _, _, rfl, ⟨hx, rfl⟩, ⟨s, _, rfl, hs, _, rfl, t, _, rfl, ht, _, rfl, _, rfl, u, _,
    rfl, hu, _, rfl, v, _, rfl, hv, _, rfl, rfl, rfl⟩, rfl⟩ := h
  rw [List.nil_append, Match.group_taken (by decide)]
  exact ⟨hx, s, t, u, v, by simp, hs, ht, hu, hv⟩

theorem fits_binding_iff {rule : ReferenceRule} {b a : Text} :
    rule.binding.Fits b a ↔ ∃ x w r, a = w ++ r ∧ rule.IsBinding x w := by
  constructor
  · rintro ⟨w, r, k, rfl, h⟩
    exact ⟨_, w, r, rfl, takes_binding h⟩
  · rintro ⟨x, _, r, rfl, hx, s, t, u, v, rfl, hs, ht, hu, hv⟩
    simp only [binding, fits_seqs_iff, fitsAll_group_cons, fitsAll_identifier_cons,
      fitsAll_blanks_cons, fitsAll_literal_cons, fitsAll_word_cons, fitsAll_nil, and_true]
    exact ⟨x, s ++ '=' :: (t ++ (rule.wrapper ++ '(' :: (u ++ (rule.target ++ (v ++ ')' :: r))))),
      by simp, hx, s, _, rfl, hs, _, rfl, t, _, rfl, ht, _, rfl, _, rfl, u, _, rfl, hu, _, rfl, v,
      ')' :: r, rfl, hv, r, rfl⟩

theorem isPlain_reference (rule : ReferenceRule) : rule.reference.isPlain = true := by
  simp [reference, seqs, Pattern.isPlain, identifier, blanks, many, literal]

theorem isSolid_reference (rule : ReferenceRule) : rule.reference.isSolid = true := by
  simp [reference, seqs, Pattern.isSolid, literal]

theorem isPlain_binding (rule : ReferenceRule) : rule.binding.isPlain = true := by
  simp [binding, seqs, Pattern.isPlain, identifier, blanks, many, literal]

theorem isSolid_binding (rule : ReferenceRule) : rule.binding.isSolid = true := by
  simp [binding, seqs, Pattern.isSolid, literal]

theorem IsReference.led {rule : ReferenceRule} {x w : Text} (h : rule.IsReference x w) (r : Text) :
    Led Identifier '.' (w ++ r) := by
  obtain ⟨hx, s, t, u, rfl, hs, -, -⟩ := h
  exact ⟨x, s, t ++ rule.accessor ++ u ++ ['.'] ++ r, by simp, hx, hs⟩

theorem IsBinding.led {rule : ReferenceRule} {x w : Text} (h : rule.IsBinding x w) (r : Text) :
    Led Identifier '=' (w ++ r) := by
  obtain ⟨hx, s, t, u, v, rfl, hs, -⟩ := h
  exact ⟨x, s, t ++ rule.wrapper ++ '(' :: (u ++ rule.target ++ v ++ [')']) ++ r, by simp, hx, hs⟩

/-- No stop but the full stops is in a reference. -/
theorem IsReference.stop_not_mem {rule : ReferenceRule} (hn : rule.WellNamed) {x w : Text}
    (h : rule.IsReference x w) {c : Char} (hc : isStop c = true) (hne : c ≠ '.') : c ∉ w := by
  obtain ⟨hx, s, t, u, rfl, hs, ht, hu⟩ := h
  simp [hne, stop_not_mem_of_identifier hc hx, stop_not_mem_of_identifier hc hn.accessor,
    stop_not_mem_of_spaces hc hs, stop_not_mem_of_spaces hc ht, stop_not_mem_of_spaces hc hu]

theorem IsReference.head?_reverse {rule : ReferenceRule} {y z : Text} (h : rule.IsReference y z) (b : Text) :
    (z.reverse ++ b).head? = some '.' := by
  obtain ⟨-, s, t, u, rfl, -⟩ := h
  simp

/-! ### No name ends where a reference is found -/

/-- A reference with a name in front of it is one to the longer name. -/
theorem IsReference.prepend {rule : ReferenceRule} {x y w : Text} (h : rule.IsReference x w)
    (hy : Identifier y) : rule.IsReference (y ++ x) (y ++ w) := by
  obtain ⟨hx, s, t, u, rfl, hs, ht, hu⟩ := h
  exact ⟨hy.append hx.forall_mem, s, t, u, by simp, hs, ht, hu⟩

/-- The search leaves no name before a reference. The names that end at the place where it
starts are those of no reference; behind a reference there is a full stop. -/
theorem unnamed_of_scans {rule : ReferenceRule} {b a : Text} {ms : List Match}
    (hscan : Scans rule.reference b a ms)
    (hb : ∀ y b', b = y.reverse ++ b' → Identifier y → ¬ rule.reference.Fits b' (y ++ a)) :
    ∀ m ∈ ms, Unnamed m.start.before := by
  induction hscan with
  | done => simp
  | @skip b a x ms hfits _ ih =>
      refine ih fun y b' hy hname => ?_
      rcases List.eq_nil_or_concat' y with rfl | ⟨y, z, rfl⟩
      · obtain ⟨c, v, hv, -⟩ := hname
        cases hv
      · rw [List.reverse_concat] at hy
        obtain ⟨rfl, rfl⟩ := List.cons.inj hy
        cases y with
        | nil => exact hfits
        | cons c y =>
            have hbefore := hb (c :: y) b' rfl (hname.of_append (List.cons_ne_nil c y))
            rwa [List.append_assoc]
  | @found b w a k ms _ ht _ _ ih =>
      have hreference := takes_reference ht
      refine List.forall_mem_cons.2 ⟨fun y hy hprefix => ?_, ih fun y b' hy hname => ?_⟩
      · obtain ⟨b', hb'⟩ := hprefix
        refine hb y b' hb'.symm hy (fits_reference_iff.2 ⟨_, y ++ w, a, ?_, hreference.prepend hy⟩)
        rw [List.append_assoc]
      · -- The name would end in the full stop of the reference.
        have hhead := hreference.head?_reverse b
        rw [hy] at hhead
        rcases List.eq_nil_or_concat' y with rfl | ⟨y, z, rfl⟩
        · obtain ⟨c, v, hv, -⟩ := hname
          cases hv
        · obtain rfl : z = '.' := by simpa using hhead
          exact absurd (hname.forall_mem '.' (by simp)) (by decide)

theorem unnamed_of_mem_matchesIn {rule : ReferenceRule} {text : Text} :
    ∀ m ∈ rule.reference.matchesIn text, Unnamed m.start.before := by
  refine unnamed_of_scans (scans_matchesIn (isPlain_reference rule) (isSolid_reference rule) text)
    fun y b' hy hname => ?_
  obtain ⟨c, v, rfl, -⟩ := hname
  simp at hy

/-! ### References and bindings are clear from the text -/

section

variable {rule : ReferenceRule} (hn : rule.WellNamed)

include hn

theorem IsReference.append_inj {x y w z r t : Text} (hw : rule.IsReference x w)
    (hz : rule.IsReference y z) (h : w ++ r = z ++ t) : x = y ∧ w = z ∧ r = t := by
  obtain ⟨hx, s₁, s₂, s₃, rfl, hs₁, hs₂, hs₃⟩ := hw
  obtain ⟨hy, t₁, t₂, t₃, rfl, ht₁, ht₂, ht₃⟩ := hz
  rw [List.append_assoc, List.append_assoc _ _ t] at h
  obtain ⟨rfl, rfl, -, hrest⟩ := stop_inj hx.forall_mem hy.forall_mem hs₁ ht₁ (by decide) (by decide) h
  have hmember : s₂ ++ (rule.accessor ++ (s₃ ++ '.' :: r)) =
      t₂ ++ (rule.accessor ++ (t₃ ++ '.' :: t)) := by simpa using hrest
  obtain ⟨rfl, hdot⟩ := hs₂.append_identifier_inj ht₂ hn.accessor hn.accessor hmember
  obtain ⟨rfl, -, rfl⟩ :=
    hs₃.append_inj ht₃ (by decide) (by decide) (List.append_cancel_left hdot)
  exact ⟨rfl, rfl, rfl⟩

theorem IsBinding.append_inj {x y w z r t : Text} (hw : rule.IsBinding x w)
    (hz : rule.IsBinding y z) (h : w ++ r = z ++ t) : x = y ∧ w = z ∧ r = t := by
  obtain ⟨hx, s₁, s₂, s₃, s₄, rfl, hs₁, hs₂, hs₃, hs₄⟩ := hw
  obtain ⟨hy, t₁, t₂, t₃, t₄, rfl, ht₁, ht₂, ht₃, ht₄⟩ := hz
  rw [List.append_assoc, List.append_assoc _ _ t] at h
  obtain ⟨rfl, rfl, -, hrest⟩ := stop_inj hx.forall_mem hy.forall_mem hs₁ ht₁ (by decide) (by decide) h
  have hcall : s₂ ++ (rule.wrapper ++ '(' :: (s₃ ++ (rule.target ++ (s₄ ++ ')' :: r)))) =
      t₂ ++ (rule.wrapper ++ '(' :: (t₃ ++ (rule.target ++ (t₄ ++ ')' :: t)))) := by
    simpa using hrest
  obtain ⟨rfl, hparen⟩ := hs₂.append_identifier_inj ht₂ hn.wrapper hn.wrapper hcall
  have hargument := (List.cons.inj (List.append_cancel_left hparen)).2
  obtain ⟨rfl, hclose⟩ := hs₃.append_identifier_inj ht₃ hn.target hn.target hargument
  obtain ⟨rfl, -, rfl⟩ :=
    hs₄.append_inj ht₄ (by decide) (by decide) (List.append_cancel_left hclose)
  exact ⟨rfl, rfl, rfl⟩

/-- No binding begins in a reference. -/
theorem IsReference.never {x w : Text} (h : rule.IsReference x w) :
    Never (Led Identifier '=') w := by
  obtain ⟨hx, s, t, u, rfl, hs, ht, hu⟩ := h
  have hname : Never (Led Identifier '=') ([] ++ x ++ s ++ ['.']) :=
    never_led (fun _ h => h) spaces_nil hx.forall_mem hs (by decide) (by decide) (by simp)
  have hmember : Never (Led Identifier '=') (t ++ rule.accessor ++ u ++ ['.']) :=
    never_led (fun _ h => h) ht hn.accessor.forall_mem hu (by decide) (by decide) (by simp)
  simpa using hname.append hmember

/-- No reference begins in a binding. -/
theorem IsBinding.never {x w : Text} (h : rule.IsBinding x w) : Never (Led Identifier '.') w := by
  obtain ⟨hx, s, t, u, v, rfl, hs, ht, hu, hv⟩ := h
  have hname : Never (Led Identifier '.') ([] ++ x ++ s ++ ['=']) :=
    never_led (fun _ h => h) spaces_nil hx.forall_mem hs (by decide) (by decide) (by simp)
  have hcall : Never (Led Identifier '.') (t ++ rule.wrapper ++ [] ++ ['(']) :=
    never_led (fun _ h => h) ht hn.wrapper.forall_mem spaces_nil (by decide) (by decide) (by simp)
  have hargument : Never (Led Identifier '.') (u ++ rule.target ++ v ++ [')']) :=
    never_led (fun _ h => h) hu hn.target.forall_mem hv (by decide) (by decide) (by simp)
  simpa using (hname.append hcall).append hargument

end

/-! ### Bindings stay where they are -/

theorem IsBinding.exists_cons {rule : ReferenceRule} {x w : Text} (h : rule.IsBinding x w) :
    ∃ c w', w = c :: w' := by
  obtain ⟨⟨c, x, rfl, -⟩, s, t, u, v, rfl, -⟩ := h
  exact ⟨c, _, rfl⟩

/-- A redirected reference. -/
def redirected (rule : ReferenceRule) : Text := rule.target ++ '.' :: rule.accessor ++ ['.']

/-- A reference gives way to a redirected one. -/
def Redirected (rule : ReferenceRule) (o n : Text) : Prop :=
  (∃ x, rule.IsReference x o) ∧ n = rule.redirected

/-- No name ends right before a part that gives way. -/
def Apart (b : Text) : List Piece → Prop
  | [] => True
  | .kept c :: ps => Apart (c :: b) ps
  | .swapped o _ :: ps => Unnamed b ∧ Apart (o.reverse ++ b) ps

theorem apart_map_kept {w b : Text} {ps : List Piece} :
    Apart b (w.map kept ++ ps) ↔ Apart (w.reverse ++ b) ps := by
  induction w generalizing b with
  | nil => rfl
  | cons c w ih =>
      rw [List.reverse_cons, List.append_assoc]
      exact ih

section

variable {rule : ReferenceRule} (hn : rule.WellNamed)

include hn

theorem isReference_redirected : rule.IsReference rule.target rule.redirected :=
  ⟨hn.target, [], [], [], by simp [redirected], spaces_nil, spaces_nil, spaces_nil⟩

/-- A binding that begins at a character that stays does so with all its characters. -/
theorem IsBinding.eq_kept {ps : List Piece} (hps : All rule.Redirected ps) {c : Char}
    {x w r : Text} (hw : rule.IsBinding x w) (h : c :: oldText ps = w ++ r) :
    ∃ w' qs, w = c :: w' ∧ ps = w'.map kept ++ qs ∧ oldText qs = r := by
  have hnever := hw.never hn
  obtain ⟨d, w, rfl⟩ := hw.exists_cons
  obtain ⟨rfl, htail⟩ := List.cons.inj h
  obtain ⟨qs, rfl, hqs⟩ := eq_kept_append htail fun o n hmem u v huv hv hprefix => by
    obtain ⟨⟨y, ho⟩, -⟩ := hps o n hmem
    obtain ⟨t, ht⟩ := hprefix
    refine hnever (c :: u) v r (by rw [huv]; rfl) hv ?_
    rw [← ht]
    exact ho.led t
  exact ⟨w, qs, rfl, rfl, hqs⟩

theorem IsBinding.eq_kept_of_new {ps : List Piece} (hps : All rule.Redirected ps) {c : Char}
    {x w r : Text} (hw : rule.IsBinding x w) (h : c :: newText ps = w ++ r) :
    ∃ w' qs, w = c :: w' ∧ ps = w'.map kept ++ qs ∧ newText qs = r := by
  have hnever := hw.never hn
  obtain ⟨d, w, rfl⟩ := hw.exists_cons
  obtain ⟨rfl, htail⟩ := List.cons.inj h
  obtain ⟨qs, rfl, hqs⟩ := eq_kept_append_of_new htail fun o n hmem u v huv hv hprefix => by
    obtain ⟨-, rfl⟩ := hps o n hmem
    obtain ⟨t, ht⟩ := hprefix
    refine hnever (c :: u) v r (by rw [huv]; rfl) hv ?_
    rw [← ht]
    exact (isReference_redirected hn).led t
  exact ⟨w, qs, rfl, rfl, hqs⟩

theorem not_fits_binding_of_isReference {x w : Text} (hw : rule.IsReference x w) {u v b t : Text}
    (huv : w = u ++ v) (hv : v ≠ []) : ¬ rule.binding.Fits b (v ++ t) := by
  intro hfits
  obtain ⟨y, z, r, heq, hz⟩ := fits_binding_iff.1 hfits
  refine hw.never hn u v t huv hv ?_
  rw [heq]
  exact hz.led r

/-- The bindings in the two texts bind the same variables in the same order. -/
theorem map_group_of_scans {ps : List Piece} (hps : All rule.Redirected ps) {b b' : Text}
    {ms ms' : List Match} (hold : Scans rule.binding b (oldText ps) ms)
    (hnew : Scans rule.binding b' (newText ps) ms') :
    ms'.map (·.group nameGroup) = ms.map (·.group nameGroup) := by
  induction hlength : ps.length using Nat.strongRecOn generalizing ps b b' ms ms' with
  | ind l ih =>
  cases ps with
  | nil =>
      rw [hold.eq_nil, hnew.eq_nil]
  | cons p ps =>
      cases p with
      | swapped o n =>
          obtain ⟨⟨x, ho⟩, rfl⟩ := hps.head
          refine ih ps.length ?_ hps.of_cons (hold.of_append fun u v huv hv => ?_)
            (hnew.of_append fun u v huv hv => ?_) rfl
          · rw [← hlength]
            exact Nat.lt_succ_self _
          · exact not_fits_binding_of_isReference hn ho huv hv
          · exact not_fits_binding_of_isReference hn (isReference_redirected hn) huv hv
      | kept c =>
          by_cases hfits : rule.binding.Fits b (c :: oldText ps)
          · obtain ⟨w, r, k, ms, hc, hw, -, rfl, hscan⟩ := hold.of_fits hfits
            obtain ⟨w', qs, rfl, rfl, rfl⟩ := (takes_binding hw).eq_kept hn hps.of_cons hc
            have hnewfits : rule.binding.Fits b' (c :: (w' ++ newText qs)) :=
              fits_binding_iff.2 ⟨_, c :: w', newText qs, rfl, takes_binding hw⟩
            rw [newText_kept, newText_append, newText_map_kept] at hnew
            obtain ⟨w₂, r₂, k₂, ms', hc', hw₂, -, rfl, hscan'⟩ := hnew.of_fits hnewfits
            obtain ⟨hname, rfl, rfl⟩ := (takes_binding hw).append_inj hn (takes_binding hw₂) hc'
            rw [List.map_cons, List.map_cons, hname]
            refine congrArg _ (ih qs.length ?_ hps.of_cons.right hscan hscan' rfl)
            simp at hlength
            omega
          · have hnewfits : ¬ rule.binding.Fits b' (c :: newText ps) := by
              intro h
              obtain ⟨x, w, r, hc, hw⟩ := fits_binding_iff.1 h
              obtain ⟨w', qs, rfl, rfl, rfl⟩ := hw.eq_kept_of_new hn hps.of_cons hc
              exact hfits (fits_binding_iff.2 ⟨x, c :: w', oldText qs, by simp, hw⟩)
            refine ih ps.length ?_ hps.of_cons (hold.of_not_fits hfits) (hnew.of_not_fits hnewfits) rfl
            rw [← hlength]
            exact Nat.lt_succ_self _

end

/-! ### References in the result -/

theorem redirect_cases (rule : ReferenceRule) (names : List Text) (m : Match) :
    rule.redirect names m = rule.redirected ∨ rule.redirect names m = m.text := by
  unfold redirect
  split
  · exact .inl rfl
  · exact .inr rfl

/-- What stands in place of a reference depends on it and on the character before it. -/
theorem redirect_congr (rule : ReferenceRule) (names : List Text) {m m' : Match}
    (hhead : m.start.before.head? = m'.start.before.head?)
    (hgroup : m.group nameGroup = m'.group nameGroup) (htext : m.text = m'.text) :
    rule.redirect names m = rule.redirect names m' := by
  rw [redirect, redirect, hhead, hgroup, htext]

/-- One of the references gives way to a redirected one. -/
def RedirectedIn (rule : ReferenceRule) (names : List Text) (ms : List Match) (o n : Text) : Prop :=
  rule.Redirected o n ∧ ∃ m ∈ ms, m.text = o ∧ rule.redirect names m = rule.redirected

theorem RedirectedIn.cons {rule : ReferenceRule} {names : List Text} {ms : List Match} {o n : Text}
    (h : rule.RedirectedIn names ms o n) (m : Match) : rule.RedirectedIn names (m :: ms) o n := by
  obtain ⟨hredirected, m', hm', hm⟩ := h
  exact ⟨hredirected, m', List.mem_cons_of_mem m hm', hm⟩

/-- The pieces of a text whose references are redirected. What gives way are references that the
rule redirects. -/
theorem exists_pieces {rule : ReferenceRule} (names : List Text) {b a : Text} {ms : List Match}
    (hscan : Scans rule.reference b a ms) (hms : ∀ m ∈ ms, Unnamed m.start.before) :
    ∃ ps, oldText ps = a ∧ newText ps = spliceFrom (rule.redirect names) (.between b a) ms ∧
      All (rule.RedirectedIn names ms) ps ∧ Apart b ps := by
  induction hscan with
  | done => exact ⟨[], rfl, rfl, All.map_kept [], trivial⟩
  | @skip b a x ms _ hs ih =>
      obtain ⟨ps, hold, hnew, hall, hapart⟩ := ih hms
      refine ⟨.kept x :: ps, by rw [oldText_kept, hold], ?_, hall.kept, hapart⟩
      rw [newText_kept, hnew, spliceFrom_skip fun m hm => hs.le_start m hm]
  | @found b w a k ms _ ht _ _ ih =>
      obtain ⟨hm, hms⟩ := List.forall_mem_cons.1 hms
      obtain ⟨ps, hold, hnew, hall, hapart⟩ := ih hms
      have hlater := hall.imp fun o n h => h.cons (.taken b w a k)
      rw [spliceFrom_found, ← hnew]
      rcases rule.redirect_cases names (.taken b w a k) with h | h
      · refine ⟨.swapped w rule.redirected :: ps, by rw [oldText_swapped, hold], ?_, ?_, hm, hapart⟩
        · rw [newText_swapped, h]
        · intro o n hmem
          rcases List.mem_cons.1 hmem with heq | hmem
          · cases heq
            exact ⟨⟨⟨_, takes_reference ht⟩, rfl⟩, _, List.mem_cons_self, Match.text_taken .., h⟩
          · exact hlater o n hmem
      · refine ⟨w.map .kept ++ ps, ?_, ?_, (All.map_kept w).append hlater, apart_map_kept.2 hapart⟩
        · rw [oldText_append, oldText_map_kept, hold]
        · rw [newText_append, newText_map_kept, h, Match.text_taken]

/-- Where no variable is wrapped, the rule would have nothing to redirect either. -/
theorem apply_eq_replaceAll (rule : ReferenceRule) (text : Text) : rule.apply text =
    rule.reference.replaceAll (rule.redirect (rule.wrapped text)) text := by
  unfold apply
  split
  · next hempty =>
    rw [List.isEmpty_iff] at hempty
    exact (spliceFrom_eq_self
      (scans_matchesIn (isPlain_reference rule) (isSolid_reference rule) text)
      fun m _ => by simp [redirect, hempty]).symm
  · rfl

theorem target_not_mem_wrapped (rule : ReferenceRule) (text : Text) :
    rule.target ∉ rule.wrapped text := by
  simp [wrapped]

section

variable {rule : ReferenceRule} (hn : rule.WellNamed)

include hn

/-- Redirecting references leaves the bindings of wrapped variables. -/
theorem wrapped_apply (text : Text) : rule.wrapped (rule.apply text) = rule.wrapped text := by
  obtain ⟨ps, hold, hnew, hall, -⟩ := exists_pieces (rule.wrapped text)
    (scans_matchesIn (isPlain_reference rule) (isSolid_reference rule) text)
    unnamed_of_mem_matchesIn
  have hscan := scans_matchesIn (isPlain_binding rule) (isSolid_binding rule)
  rw [apply_eq_replaceAll, replaceAll_eq, ← hnew, wrapped,
    map_group_of_scans hn (hall.imp fun _ _ h => h.1) (hscan _) (hscan _), hold]
  rfl

/-- A redirected reference does not begin inside another in the new text: a name would end
right before it, be it that of the other reference or the first part of that of the member. -/
theorem not_isPrefix_redirected {b v w s t u x r : Text} {c : Char} (hx : Identifier (c :: x))
    (hs : Spaces s) (ht : Spaces t) (hu : Spaces u) (hb : Unnamed (v.reverse ++ c :: b))
    (heq : x ++ (s ++ '.' :: (t ++ (rule.accessor ++ (u ++ ['.'])))) = v ++ w) (hw : w ≠ []) :
    ¬ rule.redirected <+: w ++ r := by
  intro hprefix
  have hQ : ∀ y, y = rule.target → Identifier y := fun y hy => hy ▸ hn.target
  have hled : Led (· = rule.target) '.' (w ++ r) := by
    obtain ⟨z, hz⟩ := hprefix
    exact ⟨rule.target, [], rule.accessor ++ ['.'] ++ z, by simp [← hz, redirected], rfl, spaces_nil⟩
  have hparts : (x ++ (s ++ ['.'])) ++ (t ++ (rule.accessor ++ (u ++ ['.']))) = v ++ w := by
    simpa using heq
  have hmember : ∀ v', v = x ++ (s ++ ['.']) ++ v' →
      t ++ (rule.accessor ++ (u ++ ['.'])) ≠ v' ++ w := by
    intro v' hv hsplit
    obtain ⟨p, q, hpq, rfl, rfl, -⟩ := exists_of_led hQ ht hn.accessor.forall_mem hu (by decide)
      (by decide) hsplit hw hled
    cases p with
    | nil => exact hn.target_ne hpq.symm
    | cons d p =>
        have haccessor := hn.accessor
        rw [hpq] at haccessor
        refine hb _ (haccessor.of_append (List.cons_ne_nil d p)) ?_
        simp [hv]
  rcases List.append_eq_append_iff.1 hparts with ⟨v', hv, hsplit⟩ | ⟨w', hname, hrest⟩
  · exact hmember v' hv hsplit
  · cases w' with
    | nil => exact hmember [] (by simpa using hname.symm) (by simpa using hrest.symm)
    | cons d w' =>
        rw [hrest, List.append_assoc] at hled
        obtain ⟨p, q, hpq, hv, -⟩ := exists_of_led hQ spaces_nil
          (List.forall_mem_cons.1 hx.forall_mem).2 hs (by decide) (by decide) hname
          (List.cons_ne_nil d w') hled
        rw [hpq] at hx
        refine hb (c :: p) (Identifier.of_append (n := q) hx (List.cons_ne_nil c p)) ?_
        simp [hv]

/-- A reference that begins at a character that stays was one before. -/
theorem fits_of_fits_newText {ps : List Piece} (hps : All rule.Redirected ps) {b b' : Text}
    {c : Char} (hapart : Apart (c :: b) ps) (h : rule.reference.Fits b' (c :: newText ps)) :
    rule.reference.Fits b (c :: oldText ps) := by
  obtain ⟨_, _, r, heq, ⟨d, y, rfl, hd, hy⟩, s, t, u, rfl, hs, ht, hu⟩ := fits_reference_iff.1 h
  have htail : newText ps = y ++ (s ++ '.' :: (t ++ (rule.accessor ++ (u ++ ['.'])))) ++ r := by
    simpa using (List.cons.inj heq).2
  obtain rfl : c = d := (List.cons.inj heq).1
  have hname : Identifier (c :: y) := ⟨c, y, rfl, hd, hy⟩
  rcases eq_kept_or_swapped htail with ⟨qs, rfl, -⟩ | ⟨v, w, o, n, qs, hvw, hw, rfl⟩
  · refine fits_reference_iff.2 ⟨c :: y, _, oldText qs, ?_, hname, s, t, u, rfl, hs, ht, hu⟩
    simp
  · obtain ⟨-, rfl⟩ := hps o n (by simp)
    have hbegins : rule.redirected <+: w ++ r := by
      rw [hvw] at htail
      exact ⟨newText qs, by simpa using htail⟩
    exact absurd hbegins
      (not_isPrefix_redirected hn hname hs ht hu (apart_map_kept.1 hapart).1 hvw hw)

/-- The search finds the reference at its place. -/
theorem scans_of_isReference {b y z r : Text} {ms : List Match} (hz : rule.IsReference y z)
    (h : Scans rule.reference b (z ++ r) ms) :
    ∃ k ms', ms = .taken b z r k :: ms' ∧ (Match.taken b z r k).group nameGroup = y ∧
      Scans rule.reference (z.reverse ++ b) r ms' := by
  obtain ⟨w, t, k, ms', heq, hw, -, rfl, hs⟩ :=
    h.of_fits (fits_reference_iff.2 ⟨y, z, r, rfl, hz⟩)
  obtain ⟨rfl, rfl, rfl⟩ := hz.append_inj hn (takes_reference hw) heq
  exact ⟨k, ms', rfl, rfl, hs⟩

/-- The search for references in the result of a pass finds none to redirect. The two
searches go on side by side: at each place both find a reference or none does. -/
theorem redirect_eq_text {names : List Text} (hnames : rule.target ∉ names) {b a : Text}
    {ms : List Match} (hscan : Scans rule.reference b a ms)
    (hms : ∀ m ∈ ms, Unnamed m.start.before) :
    ∀ {b' : Text} {ms' : List Match}, b'.head? = b.head? →
      Scans rule.reference b' (spliceFrom (rule.redirect names) (.between b a) ms) ms' →
      ∀ m ∈ ms', rule.redirect names m = m.text := by
  induction hscan with
  | done =>
      intro b' ms' _ hscan'
      rw [Scans.eq_nil hscan']
      simp
  | @skip b a x ms hfits hs ih =>
      intro b' ms' _ hscan'
      obtain ⟨ps, rfl, hnew, hps, hapart⟩ := exists_pieces names hs hms
      rw [spliceFrom_skip fun m hm => hs.le_start m hm] at hscan'
      have hfits' : ¬ rule.reference.Fits b'
          (x :: spliceFrom (rule.redirect names) (.between (x :: b) (oldText ps)) ms) := by
        rw [← hnew]
        exact fun h => hfits (fits_of_fits_newText hn (hps.imp fun _ _ h => h.1) hapart h)
      refine ih hms ?_ (hscan'.of_not_fits hfits')
      rfl
  | @found b w a k ms _ ht hw hs ih =>
      intro b' ms' hhead hscan'
      have hreference := takes_reference ht
      have hms := (List.forall_mem_cons.1 hms).2
      rw [spliceFrom_found] at hscan'
      rcases rule.redirect_cases names (.taken b w a k) with h | h
      · rw [h] at hscan'
        obtain ⟨k', ms', rfl, hgroup, hs'⟩ :=
          scans_of_isReference hn (isReference_redirected hn) hscan'
        refine List.forall_mem_cons.2 ⟨?_, ih hms ?_ hs'⟩
        · rw [redirect, hgroup]
          simp [hnames]
        · rw [(isReference_redirected hn).head?_reverse, hreference.head?_reverse]
      · rw [h, Match.text_taken] at hscan'
        obtain ⟨k', ms', rfl, hgroup, hs'⟩ := scans_of_isReference hn hreference hscan'
        refine List.forall_mem_cons.2 ⟨?_, ih hms ?_ hs'⟩
        · rw [rule.redirect_congr names hhead hgroup (by simp), h, Match.text_taken, Match.text_taken]
        · rw [hreference.head?_reverse, hreference.head?_reverse]

/-- No reference in the result of a pass is one to redirect. -/
theorem redirect_of_mem_matchesIn_apply {text : Text} :
    ∀ m ∈ rule.reference.matchesIn (rule.apply text),
      rule.redirect (rule.wrapped text) m = m.text := by
  have hscan := scans_matchesIn (isPlain_reference rule) (isSolid_reference rule)
  have hresult := hscan (rule.apply text)
  have happly := rule.apply_eq_replaceAll text
  rw [replaceAll_eq] at happly
  generalize rule.reference.matchesIn (rule.apply text) = ms at hresult
  rw [happly] at hresult
  exact redirect_eq_text hn (target_not_mem_wrapped rule text) (hscan text) unnamed_of_mem_matchesIn
    rfl hresult

theorem apply_apply (text : Text) : rule.apply (rule.apply text) = rule.apply text := by
  rw [apply_eq_replaceAll, wrapped_apply hn]
  exact spliceFrom_eq_self
    (scans_matchesIn (isPlain_reference rule) (isSolid_reference rule) _)
    (redirect_of_mem_matchesIn_apply hn)

/-- A redirected reference differs from the text already in its name. -/
theorem redirected_append_ne {b w r : Text} {k : Captures} (h : rule.reference.Takes b w r k)
    (hname : (Match.taken b w r k).group nameGroup ≠ rule.target) (t : Text) :
    rule.redirected ++ t ≠ w ++ r := by
  intro heq
  obtain ⟨htarget, -⟩ := (isReference_redirected hn).append_inj hn (takes_reference h) heq
  exact hname htarget.symm

/-- The rule does not fire on what it has made of a text. -/
theorem fires_run (text : Text) : rule.toRule.fires (rule.toRule.run text) = false := by
  by_contra h
  rw [Bool.not_eq_false, Rule.fires_iff] at h
  obtain ⟨htrigger, hne⟩ := h
  rw [Rule.run_of_trigger (Rule.trigger_of_trigger_run htrigger)] at hne
  exact hne (apply_apply hn text)

end

end ReferenceRule

end CodeMigration
