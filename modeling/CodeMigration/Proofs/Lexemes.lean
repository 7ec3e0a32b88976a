import CodeMigration.Pattern.Lexeme
import CodeMigration.Proofs.CharClasses
import CodeMigration.Proofs.Pieces

/-!
# CodeMigration.Proofs.Lexemes

What the building blocks of patterns take, one statement for each, and what a
sequence of patterns takes from left to right. Sequences are grouped to the left, so
a pattern of a long sequence is reached only by way of all the patterns before it;
`Pattern.takes_seqs_iff` and `Pattern.fits_seqs_iff` turn that round.
-/

namespace CodeMigration

/-- The text of the group that was captured last. -/
theorem Match.group_taken {b w a c d e : Text} {k : Captures} {i : Nat} (hi : i ≠ 0) :
    (Match.taken b w a ((i, .between c (d ++ e), .between (d.reverse ++ c) e) :: k)).group i = d := by
  simp [Match.group, Match.group?, Match.span?, Match.taken, hi]

/-- The text of a group that was captured before another. -/
theorem Match.group_taken_cons {b w a : Text} {c : Cursor × Cursor} {k : Captures} {i j : Nat}
    (hi : i ≠ 0) (hij : i ≠ j) :
    (Match.taken b w a ((j, c) :: k)).group i = (Match.taken b w a k).group i := by
  simp [Match.group, Match.group?, Match.span?, Match.taken, hi, List.lookup_cons,
    beq_eq_false_iff_ne.2 hij]

namespace Pattern

/-! ### Single patterns -/

theorem takes_empty_iff {b w a : Text} {k : Captures} :
    empty.Takes b w a k ↔ w = [] ∧ k = [] := by
  constructor
  · intro h
    cases h
    exact ⟨rfl, rfl⟩
  · rintro ⟨rfl, rfl⟩
    exact .empty

theorem takes_word_iff {cs b w a : Text} {k : Captures} :
    (word cs).Takes b w a k ↔ w = cs ∧ k = [] := by
  constructor
  · intro h
    cases h
    exact ⟨rfl, rfl⟩
  · rintro ⟨rfl, rfl⟩
    exact .word

theorem takes_one_iff {set : CharSet} {b w a : Text} {k : Captures} :
    (one set).Takes b w a k ↔ ∃ x, w = [x] ∧ set.contains x = true ∧ k = [] := by
  constructor
  · intro h
    cases h with
    | one h => exact ⟨_, rfl, h, rfl⟩
  · rintro ⟨x, rfl, hx, rfl⟩
    exact .one hx

theorem takes_look_iff {anchor : Anchor} {b w a : Text} {k : Captures} :
    (look anchor).Takes b w a k ↔ w = [] ∧ anchor.holds (.between b a) = true ∧ k = [] := by
  constructor
  · intro h
    cases h with
    | look h => exact ⟨rfl, h, rfl⟩
  · rintro ⟨rfl, h, rfl⟩
    exact .look h

/-- A word begins where no word character stands before it. -/
theorem holds_wordBoundary_iff {b a : Text} {x : Char} (hx : Unicode.isWord x = true) :
    (Anchor.wordBoundary Unicode.isWord).holds (.between b (x :: a)) = true ↔
      Anchor.nearest Unicode.isWord b = false := by
  simp [Anchor.holds, Anchor.nearest, hx]

theorem takes_seq_iff {p q : Pattern} {b w a : Text} {k : Captures} :
    (seq p q).Takes b w a k ↔ ∃ u v k₁ k₂, w = u ++ v ∧ p.Takes b u (v ++ a) k₁ ∧
      q.Takes (u.reverse ++ b) v a k₂ ∧ k = k₂ ++ k₁ := by
  constructor
  · intro h
    cases h with
    | seq hp hq => exact ⟨_, _, _, _, rfl, hp, hq, rfl⟩
  · rintro ⟨u, v, k₁, k₂, rfl, hp, hq, rfl⟩
    exact .seq hp hq

theorem takes_alt_iff {mark : Option Nat} {p q : Pattern} {b w a : Text} {k : Captures} :
    (alt mark p q).Takes b w a k ↔ p.Takes b w a k ∨ q.Takes b w a k := by
  constructor
  · intro h
    cases h with
    | altLeft h => exact .inl h
    | altRight h => exact .inr h
  · rintro (h | h)
    · exact .altLeft h
    · exact .altRight h

theorem takes_optional_iff {p : Pattern} {b w a : Text} {k : Captures} :
    (optional p).Takes b w a k ↔ p.Takes b w a k ∨ w = [] ∧ k = [] := by
  rw [optional, takes_alt_iff, takes_empty_iff]

theorem takes_group_iff {i : Nat} {p : Pattern} {b w a : Text} {k : Captures} :
    (group i p).Takes b w a k ↔ ∃ l, p.Takes b w a l ∧
      k = (i, .between b (w ++ a), .between (w.reverse ++ b) a) :: l := by
  constructor
  · intro h
    cases h with
    | group h => exact ⟨_, h, rfl⟩
  · rintro ⟨l, h, rfl⟩
    exact .group h

theorem takes_run_iff {mark : Option Nat} {greedy : Bool} {set : CharSet} {b w a : Text}
    {k : Captures} :
    (run mark greedy set).Takes b w a k ↔ (∀ x ∈ w, set.contains x = true) ∧ k = [] := by
  constructor
  · intro h
    cases h with
    | run h => exact ⟨h, rfl⟩
  · rintro ⟨h, rfl⟩
    exact .run h

theorem takes_many1_iff {set : CharSet} {b w a : Text} {k : Captures} :
    (many1 set).Takes b w a k ↔ (∀ x ∈ w, set.contains x = true) ∧ w ≠ [] ∧ k = [] := by
  simp only [many1, many, takes_seq_iff, takes_one_iff, takes_run_iff]
  constructor
  · rintro ⟨u, v, k₁, k₂, rfl, ⟨x, rfl, hx, rfl⟩, ⟨hv, rfl⟩, rfl⟩
    exact ⟨by simpa [hx] using hv, by simp, rfl⟩
  · rintro ⟨hw, hne, rfl⟩
    cases w with
    | nil => exact absurd rfl hne
    | cons x w =>
        simp only [List.mem_cons, forall_eq_or_imp] at hw
        exact ⟨[x], w, [], [], rfl, ⟨x, rfl, hw.1, rfl⟩, ⟨hw.2, rfl⟩, rfl⟩

/-- What holds of nothing, and goes on holding when a round of the pattern is put in
front, holds of all that a repetition takes. -/
theorem Takes.star_induction {mark : Option Nat} {greedy : Bool} {p : Pattern}
    {P : Text → Captures → Prop} (hnil : P [] [])
    (hcons : ∀ b v w a k l, p.Takes b v (w ++ a) k → P w l → P (v ++ w) (l ++ k))
    {b w a : Text} {k : Captures} (h : (star mark greedy p).Takes b w a k) : P w k := by
  generalize hq : star mark greedy p = q at h
  induction h with
  | starNil => exact hnil
  | starCons _ hp _ _ ih =>
      cases hq
      exact hcons _ _ _ _ _ _ hp (ih rfl)
  | _ => cases hq

theorem fits_group_iff {i : Nat} {p : Pattern} {b a : Text} : (group i p).Fits b a ↔ p.Fits b a := by
  constructor
  · rintro ⟨w, r, k, ha, h⟩
    obtain ⟨l, h, -⟩ := takes_group_iff.1 h
    exact ⟨w, r, l, ha, h⟩
  · rintro ⟨w, r, l, ha, h⟩
    exact ⟨w, r, _, ha, .group h⟩

/-! ### Sequences -/

/-- The patterns take the word one after another. -/
def TakesAll : List Pattern → Text → Text → Text → Captures → Prop
  | [], _, w, _, k => w = [] ∧ k = []
  | p :: ps, b, w, a, k => ∃ u v k₁ k₂, w = u ++ v ∧ p.Takes b u (v ++ a) k₁ ∧
      TakesAll ps (u.reverse ++ b) v a k₂ ∧ k = k₂ ++ k₁

/-- The patterns fit at the place one after another. -/
def FitsAll : List Pattern → Text → Text → Prop
  | [], _, _ => True
  | p :: ps, b, a => ∃ u r k, a = u ++ r ∧ p.Takes b u r k ∧ FitsAll ps (u.reverse ++ b) r

theorem takes_foldl_seq_iff {p : Pattern} {ps : List Pattern} {b w a : Text} {k : Captures} :
    (ps.foldl seq p).Takes b w a k ↔ TakesAll (p :: ps) b w a k := by
  induction ps generalizing p b w k with
  | nil =>
      simp only [List.foldl_nil, TakesAll]
      constructor
      · intro h
        exact ⟨w, [], k, [], by simp, by simpa using h, ⟨rfl, rfl⟩, rfl⟩
      · rintro ⟨u, v, k₁, k₂, rfl, h, ⟨rfl, rfl⟩, rfl⟩
        simpa using h
  | cons q ps ih =>
      rw [List.foldl_cons, ih]
      simp only [TakesAll, takes_seq_iff]
      constructor
      · rintro ⟨_, v, _, k₂, rfl, ⟨u, u', l, l', rfl, hp, hq, rfl⟩, hps, rfl⟩
        exact ⟨u, u' ++ v, l, k₂ ++ l', by simp, by simpa using hp,
          ⟨u', v, l', k₂, rfl, hq, by simpa using hps, rfl⟩, by simp⟩
      · rintro ⟨u, _, l, _, rfl, hp, ⟨u', v, l', k₂, rfl, hq, hps, rfl⟩, rfl⟩
        exact ⟨u ++ u', v, l' ++ l, k₂, by simp,
          ⟨u, u', l, l', rfl, by simpa using hp, hq, rfl⟩, by simpa using hps, by simp⟩

/-- A sequence of patterns takes what its patterns take from left to right. -/
theorem takes_seqs_iff {ps : List Pattern} {b w a : Text} {k : Captures} :
    (seqs ps).Takes b w a k ↔ TakesAll ps b w a k := by
  cases ps with
  | nil => exact takes_empty_iff
  | cons p ps => exact takes_foldl_seq_iff

theorem fitsAll_iff {ps : List Pattern} {b a : Text} :
    FitsAll ps b a ↔ ∃ w r k, a = w ++ r ∧ TakesAll ps b w r k := by
  induction ps generalizing b a with
  | nil => exact ⟨fun _ => ⟨[], a, [], rfl, rfl, rfl⟩, fun _ => trivial⟩
  | cons p ps ih =>
      simp only [FitsAll, TakesAll, ih]
      constructor
      · rintro ⟨u, _, k₁, rfl, hp, w, r, k₂, rfl, hps⟩
        exact ⟨u ++ w, r, k₂ ++ k₁, by simp, u, w, k₁, k₂, rfl, hp, hps, rfl⟩
      · rintro ⟨_, r, _, rfl, u, w, k₁, k₂, rfl, hp, hps, rfl⟩
        exact ⟨u, w ++ r, k₁, by simp, hp, w, r, k₂, rfl, hps⟩

/-- A sequence of patterns fits where its patterns fit from left to right. -/
theorem fits_seqs_iff {ps : List Pattern} {b a : Text} : (seqs ps).Fits b a ↔ FitsAll ps b a := by
  rw [fitsAll_iff]
  simp only [Fits, takes_seqs_iff]

/-! #### One pattern of a sequence -/

@[simp] theorem takesAll_nil {b w a : Text} {k : Captures} :
    TakesAll [] b w a k ↔ w = [] ∧ k = [] := Iff.rfl

theorem takesAll_append {ps qs : List Pattern} {b w a : Text} {k : Captures} :
    TakesAll (ps ++ qs) b w a k ↔ ∃ u v k₁ k₂, w = u ++ v ∧ TakesAll ps b u (v ++ a) k₁ ∧
      TakesAll qs (u.reverse ++ b) v a k₂ ∧ k = k₂ ++ k₁ := by
  induction ps generalizing b w k with
  | nil =>
      constructor
      · intro h
        exact ⟨[], w, [], k, rfl, ⟨rfl, rfl⟩, h, by simp⟩
      · rintro ⟨_, v, _, k₂, rfl, ⟨rfl, rfl⟩, h, rfl⟩
        simpa using h
  | cons p ps ih =>
      simp only [List.cons_append, TakesAll, ih]
      constructor
      · rintro ⟨u, _, k₁, _, rfl, hp, ⟨u', v, l₁, l₂, rfl, hps, hqs, rfl⟩, rfl⟩
        exact ⟨u ++ u', v, l₁ ++ k₁, l₂, by simp, ⟨u, u', k₁, l₁, rfl, by simpa using hp, hps, rfl⟩,
          by simpa using hqs, by simp⟩
      · rintro ⟨_, v, _, k₂, rfl, ⟨u, u', k₁, l₁, rfl, hp, hps, rfl⟩, hqs, rfl⟩
        exact ⟨u, u' ++ v, k₁, k₂ ++ l₁, by simp, by simpa using hp,
          ⟨u', v, l₁, k₂, rfl, hps, by simpa using hqs, rfl⟩, by simp⟩

theorem takesAll_cons_of_free {p : Pattern} {Q : Text → Text → Text → Prop}
    (hp : ∀ b u r k, p.Takes b u r k ↔ Q b u r ∧ k = []) {ps : List Pattern} {b w a : Text}
    {k : Captures} :
    TakesAll (p :: ps) b w a k ↔
      ∃ u v, w = u ++ v ∧ Q b u (v ++ a) ∧ TakesAll ps (u.reverse ++ b) v a k := by
  simp only [TakesAll, hp]
  constructor
  · rintro ⟨u, v, k₁, k₂, hw, ⟨hu, rfl⟩, hps, rfl⟩
    exact ⟨u, v, hw, hu, by simpa using hps⟩
  · rintro ⟨u, v, hw, hu, hps⟩
    exact ⟨u, v, [], k, hw, ⟨hu, rfl⟩, hps, by simp⟩

@[simp] theorem takesAll_word_cons {cs b w a : Text} {k : Captures} {ps : List Pattern} :
    TakesAll (word cs :: ps) b w a k ↔
      ∃ v, w = cs ++ v ∧ TakesAll ps (cs.reverse ++ b) v a k := by
  rw [takesAll_cons_of_free fun _ _ _ _ => takes_word_iff]
  constructor
  · rintro ⟨u, v, hw, rfl, hps⟩
    exact ⟨v, hw, hps⟩
  · rintro ⟨v, hw, hps⟩
    exact ⟨cs, v, hw, rfl, hps⟩

@[simp] theorem takesAll_literal_cons {t : String} {b w a : Text} {k : Captures}
    {ps : List Pattern} :
    TakesAll (literal t :: ps) b w a k ↔
      ∃ v, w = t.toList ++ v ∧ TakesAll ps (t.toList.reverse ++ b) v a k := takesAll_word_cons

@[simp] theorem takesAll_look_cons {anchor : Anchor} {b w a : Text} {k : Captures}
    {ps : List Pattern} :
    TakesAll (look anchor :: ps) b w a k ↔
      anchor.holds (.between b (w ++ a)) = true ∧ TakesAll ps b w a k := by
  rw [takesAll_cons_of_free (Q := fun b u r => u = [] ∧ anchor.holds (.between b r) = true)
    fun _ _ _ _ => by rw [takes_look_iff, and_assoc]]
  constructor
  · rintro ⟨u, v, rfl, ⟨rfl, hlook⟩, hps⟩
    exact ⟨hlook, hps⟩
  · rintro ⟨hlook, hps⟩
    exact ⟨[], w, rfl, ⟨rfl, hlook⟩, hps⟩

@[simp] theorem takesAll_group_cons {i : Nat} {p : Pattern} {b w a : Text} {k : Captures}
    {ps : List Pattern} :
    TakesAll (group i p :: ps) b w a k ↔ ∃ u v l k₂, w = u ++ v ∧ p.Takes b u (v ++ a) l ∧
      TakesAll ps (u.reverse ++ b) v a k₂ ∧
      k = k₂ ++ (i, .between b (u ++ (v ++ a)), .between (u.reverse ++ b) (v ++ a)) :: l := by
  simp only [TakesAll, takes_group_iff]
  constructor
  · rintro ⟨u, v, _, k₂, hw, ⟨l, hu, rfl⟩, hps, hk⟩
    exact ⟨u, v, l, k₂, hw, hu, hps, hk⟩
  · rintro ⟨u, v, l, k₂, hw, hu, hps, hk⟩
    exact ⟨u, v, _, k₂, hw, ⟨l, hu, rfl⟩, hps, hk⟩

@[simp] theorem fitsAll_nil {b a : Text} : FitsAll [] b a := trivial

@[simp] theorem fitsAll_singleton {p : Pattern} {b a : Text} : FitsAll [p] b a ↔ p.Fits b a := by
  simp [FitsAll, Fits]

theorem fitsAll_cons_of_free {p : Pattern} {Q : Text → Prop}
    (hp : ∀ b u r k, p.Takes b u r k ↔ Q u ∧ k = []) {ps : List Pattern} {b a : Text} :
    FitsAll (p :: ps) b a ↔ ∃ u r, a = u ++ r ∧ Q u ∧ FitsAll ps (u.reverse ++ b) r := by
  simp [FitsAll, hp, and_assoc]

@[simp] theorem fitsAll_word_cons {cs b a : Text} {ps : List Pattern} :
    FitsAll (word cs :: ps) b a ↔ ∃ r, a = cs ++ r ∧ FitsAll ps (cs.reverse ++ b) r := by
  simp only [FitsAll, takes_word_iff]
  constructor
  · rintro ⟨u, r, k, rfl, ⟨rfl, rfl⟩, h⟩
    exact ⟨r, rfl, h⟩
  · rintro ⟨r, rfl, h⟩
    exact ⟨cs, r, [], rfl, ⟨rfl, rfl⟩, h⟩

@[simp] theorem fitsAll_literal_cons {s : String} {b a : Text} {ps : List Pattern} :
    FitsAll (literal s :: ps) b a ↔
      ∃ r, a = s.toList ++ r ∧ FitsAll ps (s.toList.reverse ++ b) r := fitsAll_word_cons

@[simp] theorem fitsAll_look_cons {anchor : Anchor} {b a : Text} {ps : List Pattern} :
    FitsAll (look anchor :: ps) b a ↔ anchor.holds (.between b a) = true ∧ FitsAll ps b a := by
  simp only [FitsAll, takes_look_iff]
  constructor
  · rintro ⟨u, r, k, rfl, ⟨rfl, hlook, rfl⟩, h⟩
    exact ⟨hlook, h⟩
  · rintro ⟨hlook, h⟩
    exact ⟨[], a, [], rfl, ⟨rfl, hlook, rfl⟩, h⟩

@[simp] theorem fitsAll_group_cons {i : Nat} {p : Pattern} {b a : Text} {ps : List Pattern} :
    FitsAll (group i p :: ps) b a ↔ FitsAll (p :: ps) b a := by
  simp only [FitsAll, takes_group_iff]
  constructor
  · rintro ⟨u, r, _, ha, ⟨l, hp, -⟩, hps⟩
    exact ⟨u, r, l, ha, hp, hps⟩
  · rintro ⟨u, r, l, ha, hp, hps⟩
    exact ⟨u, r, _, ha, ⟨l, hp, rfl⟩, hps⟩

end Pattern

/-! ### Words in a text -/

/-- A word stands in a text where the text falls into what is before it, the word and
what is behind it. -/
theorem Text.occurs_iff {w t : Text} : Text.occurs w t = true ↔ ∃ u v, t = u ++ w ++ v := by
  induction t with
  | nil =>
      rw [Text.occurs, List.isEmpty_iff]
      constructor
      · rintro rfl
        exact ⟨[], [], rfl⟩
      · rintro ⟨u, v, h⟩
        simp only [List.nil_eq, List.append_eq_nil_iff] at h
        exact h.1.2
  | cons c t ih =>
      rw [Text.occurs, Bool.or_eq_true, ih, List.isPrefixOf_iff_prefix]
      constructor
      · rintro (⟨v, hv⟩ | ⟨u, v, rfl⟩)
        · exact ⟨[], v, hv.symm⟩
        · exact ⟨c :: u, v, rfl⟩
      · rintro ⟨u, v, h⟩
        cases u with
        | nil => exact .inl ⟨v, h.symm⟩
        | cons d u =>
            obtain ⟨rfl, ht⟩ := List.cons.inj h
            exact .inr ⟨u, v, ht⟩

/-- A word without the character lies before the first one in the text. -/
theorem Text.exists_append_of_not_mem {c : Char} {w r x z : Text} (hc : c ∉ w)
    (h : w ++ r = x ++ c :: z) : ∃ t, x = w ++ t ∧ r = t ++ c :: z := by
  rcases List.append_eq_append_iff.1 h with ⟨t, hx, hr⟩ | ⟨t, hw, hr⟩
  · exact ⟨t, hx, hr⟩
  · cases t with
    | nil => exact ⟨[], by simpa using hw.symm, hr.symm⟩
    | cons d t =>
        obtain ⟨rfl, -⟩ := List.cons.inj hr
        exact absurd (by simp [hw]) hc

/-- What ends in a text without the character has the character before that. -/
theorem Text.exists_of_append_eq {c : Char} {w r x z : Text} (hc : c ∉ z)
    (h : x ++ z = w ++ c :: r) : ∃ t, x = w ++ c :: t := by
  rcases List.append_eq_append_iff.1 h with ⟨t, rfl, hz⟩ | ⟨t, rfl, hr⟩
  · exact absurd (by simp [hz]) hc
  · cases t with
    | nil => exact absurd (by simp [show z = c :: r from hr.symm]) hc
    | cons d t =>
        obtain ⟨rfl, -⟩ := List.cons.inj hr
        exact ⟨t, rfl⟩

/-- What is described does not begin in the text, whatever follows the text. -/
def Never (P : Text → Prop) (w : Text) : Prop := ∀ u v t, w = u ++ v → v ≠ [] → ¬ P (v ++ t)

theorem Never.cons {P : Text → Prop} {c : Char} {w : Text} (hw : Never P w)
    (h : ∀ t, ¬ P (c :: w ++ t)) : Never P (c :: w) := by
  intro u v t huv hv
  cases u with
  | nil =>
      obtain rfl : c :: w = v := huv
      exact h t
  | cons d u =>
      obtain ⟨-, rfl⟩ := List.cons.inj huv
      exact hw u v t rfl hv

theorem Never.append {P : Text → Prop} {v w : Text} (hv : Never P v) (hw : Never P w) :
    Never P (v ++ w) := by
  intro a b t hab hb
  rcases List.append_eq_append_iff.1 hab with ⟨c, rfl, rfl⟩ | ⟨c, rfl, rfl⟩
  · exact hw c b t rfl hb
  · cases c with
    | nil => exact hw [] w t rfl hb
    | cons d c =>
        rw [List.append_assoc]
        exact hv a (d :: c) (w ++ t) rfl (List.cons_ne_nil d c)

/-- What does not begin in a text, but in the text with another behind it, begins in the other. -/
theorem Never.exists_behind {P : Text → Prop} {w r u v : Text} (hw : Never P w)
    (h : w ++ r = u ++ v) (hv : P v) : ∃ u', r = u' ++ v := by
  rcases List.append_eq_append_iff.1 h with ⟨u', -, hr⟩ | ⟨v', rfl, rfl⟩
  · exact ⟨u', hr⟩
  · cases v' with
    | nil => exact ⟨[], rfl⟩
    | cons c v' => exact absurd hv (hw u (c :: v') r rfl (List.cons_ne_nil c v'))

/-- A character that no new part holds is one that stays. -/
theorem Piece.exists_kept_of_new {ps : List Piece} {w r : Text} {c : Char}
    (h : newText ps = w ++ c :: r) (hno : ∀ o n, swapped o n ∈ ps → c ∉ n) :
    ∃ qs rs, ps = qs ++ kept c :: rs ∧ newText qs = w ∧ newText rs = r := by
  induction ps generalizing w with
  | nil => simp at h
  | cons p ps ih =>
      have hrest : ∀ o n, swapped o n ∈ ps → c ∉ n := fun o n hmem =>
        hno o n (List.mem_cons_of_mem p hmem)
      cases p with
      | kept d =>
          cases w with
          | nil =>
              obtain ⟨rfl, hrs⟩ := List.cons.inj h
              exact ⟨[], ps, rfl, rfl, hrs⟩
          | cons x w =>
              obtain ⟨rfl, htail⟩ := List.cons.inj h
              obtain ⟨qs, rs, rfl, rfl, hrs⟩ := ih htail hrest
              exact ⟨kept d :: qs, rs, rfl, rfl, hrs⟩
      | swapped o n =>
          obtain ⟨t, rfl, htail⟩ := Text.exists_append_of_not_mem (hno o n List.mem_cons_self)
            (show n ++ newText ps = w ++ c :: r from h)
          obtain ⟨qs, rs, rfl, rfl, hrs⟩ := ih htail hrest
          exact ⟨swapped o n :: qs, rs, rfl, rfl, hrs⟩

/-- What begins somewhere in the old text does so in the new one, if it goes on doing so at a
character that stays, and if a part that gives way does not hold its beginning or leaves one. -/
theorem Piece.exists_newText_of_exists {P : Text → Prop} {Q : Text → Text → Prop} (hnil : ¬ P [])
    (hkept : ∀ c ps, All Q ps → P (c :: oldText ps) → P (c :: newText ps))
    (hswapped : ∀ o n ps, Q o n → Never P o ∨ ∃ u v, n ++ newText ps = u ++ v ∧ P v)
    {ps : List Piece} (hps : All Q ps) (h : ∃ u v, oldText ps = u ++ v ∧ P v) :
    ∃ u v, newText ps = u ++ v ∧ P v := by
  obtain ⟨u, v, huv, hv⟩ := h
  induction ps generalizing u with
  | nil =>
      obtain ⟨-, rfl⟩ := List.append_eq_nil_iff.1 huv.symm
      exact absurd hv hnil
  | cons p ps ih =>
      cases p with
      | kept c =>
          cases u with
          | nil =>
              obtain rfl : c :: oldText ps = v := huv
              exact ⟨[], c :: newText ps, rfl, hkept c ps hps.of_cons hv⟩
          | cons d u =>
              obtain ⟨-, htail⟩ := List.cons.inj huv
              obtain ⟨u', v', hnew, hv'⟩ := ih hps.of_cons u htail
              exact ⟨c :: u', v', by rw [newText_kept, hnew]; rfl, hv'⟩
      | swapped o n =>
          rcases hswapped o n ps hps.head with hnever | hpart
          · obtain ⟨w, hw⟩ := hnever.exists_behind huv hv
            obtain ⟨u', v', hnew, hv'⟩ := ih hps.of_cons w hw
            exact ⟨n ++ u', v', by rw [newText_swapped, hnew, List.append_assoc], hv'⟩
          · exact hpart

/-- Words that begin with the two characters do not begin in the text, whatever follows
it: the first of the characters is followed in the text by another than the second. -/
def Lacks (c d : Char) : Text → Prop
  | [] => True
  | x :: w => (x = c → ∃ y v, w = y :: v ∧ y ≠ d) ∧ Lacks c d w

theorem Lacks.append {c d : Char} {u v : Text} (hu : Lacks c d u) (hv : Lacks c d v) :
    Lacks c d (u ++ v) := by
  induction u with
  | nil => exact hv
  | cons x u ih =>
      obtain ⟨hx, hu⟩ := hu
      refine ⟨fun h => ?_, ih hu⟩
      obtain ⟨y, w, rfl, hy⟩ := hx h
      exact ⟨y, w ++ v, rfl, hy⟩

theorem lacks_of_not_mem {c d : Char} {w : Text} (h : c ∉ w) : Lacks c d w := by
  induction w with
  | nil => trivial
  | cons x w ih =>
      rw [List.mem_cons, not_or] at h
      exact ⟨fun hx => absurd hx.symm h.1, ih h.2⟩

theorem Lacks.not_isPrefix {c d : Char} {u v t : Text} (h : Lacks c d (u ++ v)) (hv : v ≠ []) :
    ¬ [c, d] <+: v ++ t := by
  induction u with
  | nil =>
      cases v with
      | nil => exact absurd rfl hv
      | cons x v =>
          rintro ⟨r, hr⟩
          simp only [List.cons_append, List.nil_append, List.cons.injEq] at hr
          obtain ⟨y, w, rfl, hy⟩ := h.1 hr.1.symm
          simp only [List.cons_append, List.cons.injEq] at hr
          exact hy hr.2.1.symm
  | cons x u ih => exact ih h.2

/-! ### Blanks and identifiers -/

/-- White space alone. -/
def Spaces (s : Text) : Prop := ∀ x ∈ s, Unicode.isSpace x = true

@[simp] theorem spaces_nil : Spaces [] := by simp [Spaces]

@[simp] theorem spaces_cons {x : Char} {s : Text} :
    Spaces (x :: s) ↔ Unicode.isSpace x = true ∧ Spaces s := by simp [Spaces]

@[simp] theorem spaces_append {s t : Text} : Spaces (s ++ t) ↔ Spaces s ∧ Spaces t := by
  simp only [Spaces, List.mem_append, or_imp, forall_and]

/-- Where a run of characters of one kind ends is clear from the text. -/
theorem append_cons_inj {P : Char → Prop} {s t u v : Text} {x y : Char} (hs : ∀ z ∈ s, P z)
    (ht : ∀ z ∈ t, P z) (hx : ¬ P x) (hy : ¬ P y) (h : s ++ x :: u = t ++ y :: v) :
    s = t ∧ x = y ∧ u = v := by
  induction s generalizing t with
  | nil =>
      cases t with
      | nil =>
          obtain ⟨hxy, huv⟩ := List.cons.inj h
          exact ⟨rfl, hxy, huv⟩
      | cons z t =>
          obtain ⟨rfl, -⟩ := List.cons.inj h
          exact absurd (ht x List.mem_cons_self) hx
  | cons z s ih =>
      cases t with
      | nil =>
          obtain ⟨rfl, -⟩ := List.cons.inj h
          exact absurd (hs z List.mem_cons_self) hy
      | cons z' t =>
          obtain ⟨rfl, htail⟩ := List.cons.inj h
          rw [List.forall_mem_cons] at hs ht
          obtain ⟨rfl, hrest⟩ := ih hs.2 ht.2 htail
          exact ⟨rfl, hrest⟩

/-- The first of these characters in a text is clear from the text. -/
theorem Text.eq_of_append_cons {c : Char} {u v r s : Text} (hu : c ∉ u) (hv : c ∉ v)
    (h : u ++ c :: r = v ++ c :: s) : u = v ∧ r = s := by
  obtain ⟨huv, -, hrs⟩ := append_cons_inj (P := (· ≠ c)) (fun _ hz => ne_of_mem_of_not_mem hz hu)
    (fun _ hz => ne_of_mem_of_not_mem hz hv) (by simp) (by simp) h
  exact ⟨huv, hrs⟩

theorem Spaces.append_inj {s t u v : Text} {x y : Char} (hs : Spaces s) (ht : Spaces t)
    (hx : Unicode.isSpace x = false) (hy : Unicode.isSpace y = false)
    (h : s ++ x :: u = t ++ y :: v) : s = t ∧ x = y ∧ u = v :=
  append_cons_inj hs ht (by simp [hx]) (by simp [hy]) h

/-- White space, at least one character of it. -/
def Spaces1 (s : Text) : Prop := Spaces s ∧ s ≠ []

theorem spaces_blank : Spaces [' '] := spaces_cons.2 ⟨by decide, spaces_nil⟩

theorem spaces1_blank : Spaces1 [' '] := ⟨spaces_blank, List.cons_ne_nil _ _⟩

namespace Lexeme

open Pattern

theorem takes_blanks_iff {b w a : Text} {k : Captures} :
    blanks.Takes b w a k ↔ Spaces w ∧ k = [] := takes_run_iff

theorem takes_blanks1_iff {b w a : Text} {k : Captures} :
    blanks1.Takes b w a k ↔ Spaces1 w ∧ k = [] := by
  rw [blanks1, takes_many1_iff, Spaces1, and_assoc]
  rfl

@[simp] theorem takesAll_blanks_cons {b w a : Text} {k : Captures} {ps : List Pattern} :
    TakesAll (blanks :: ps) b w a k ↔
      ∃ s v, w = s ++ v ∧ Spaces s ∧ TakesAll ps (s.reverse ++ b) v a k :=
  takesAll_cons_of_free fun _ _ _ _ => takes_blanks_iff

@[simp] theorem takesAll_blanks1_cons {b w a : Text} {k : Captures} {ps : List Pattern} :
    TakesAll (blanks1 :: ps) b w a k ↔
      ∃ s v, w = s ++ v ∧ Spaces1 s ∧ TakesAll ps (s.reverse ++ b) v a k :=
  takesAll_cons_of_free fun _ _ _ _ => takes_blanks1_iff

@[simp] theorem fitsAll_blanks_cons {b a : Text} {ps : List Pattern} :
    FitsAll (blanks :: ps) b a ↔
      ∃ s r, a = s ++ r ∧ Spaces s ∧ FitsAll ps (s.reverse ++ b) r :=
  fitsAll_cons_of_free fun _ _ _ _ => takes_blanks_iff

@[simp] theorem fitsAll_blanks1_cons {b a : Text} {ps : List Pattern} :
    FitsAll (blanks1 :: ps) b a ↔
      ∃ s r, a = s ++ r ∧ Spaces1 s ∧ FitsAll ps (s.reverse ++ b) r :=
  fitsAll_cons_of_free fun _ _ _ _ => takes_blanks1_iff

/-- A name: a character that can begin one and others that can go on in it. -/
def Identifier (n : Text) : Prop :=
  ∃ x v, n = x :: v ∧ identifierStart.contains x = true ∧ ∀ y ∈ v, identifierPart.contains y = true

theorem Identifier.forall_mem {n : Text} (h : Identifier n) :
    ∀ c ∈ n, identifierPart.contains c = true := by
  obtain ⟨x, v, rfl, hx, hv⟩ := h
  exact List.forall_mem_cons.2 ⟨identifierPart_of_identifierStart hx, hv⟩

theorem Identifier.append {m n : Text} (hm : Identifier m)
    (hn : ∀ c ∈ n, identifierPart.contains c = true) : Identifier (m ++ n) := by
  obtain ⟨x, v, rfl, hx, hv⟩ := hm
  exact ⟨x, v ++ n, rfl, hx, fun y hy => (List.mem_append.1 hy).elim (hv y) (hn y)⟩

/-- The first part of a name is one. -/
theorem Identifier.of_append {m n : Text} (h : Identifier (m ++ n)) (hm : m ≠ []) :
    Identifier m := by
  obtain ⟨x, v, heq, hx, hv⟩ := h
  cases m with
  | nil => exact absurd rfl hm
  | cons c m =>
      obtain ⟨rfl, rfl⟩ := List.cons.inj heq
      exact ⟨c, m, rfl, hx, fun y hy => hv y (List.mem_append_left n hy)⟩

theorem takes_identifier_iff {b w a : Text} {k : Captures} :
    identifier.Takes b w a k ↔ Identifier w ∧ k = [] := by
  simp only [identifier, many, takes_seq_iff, takes_one_iff, takes_run_iff]
  constructor
  · rintro ⟨u, v, k₁, k₂, rfl, ⟨x, rfl, hx, rfl⟩, ⟨hv, rfl⟩, rfl⟩
    exact ⟨⟨x, v, rfl, hx, hv⟩, rfl⟩
  · rintro ⟨⟨x, v, rfl, hx, hv⟩, rfl⟩
    exact ⟨[x], v, [], [], rfl, ⟨x, rfl, hx, rfl⟩, ⟨hv, rfl⟩, rfl⟩

@[simp] theorem fitsAll_identifier_cons {b a : Text} {ps : List Pattern} :
    FitsAll (identifier :: ps) b a ↔
      ∃ n r, a = n ++ r ∧ Identifier n ∧ FitsAll ps (n.reverse ++ b) r :=
  fitsAll_cons_of_free fun _ _ _ _ => takes_identifier_iff

theorem fits_identifier_iff {b a : Text} :
    identifier.Fits b a ↔ ∃ x r, a = x :: r ∧ identifierStart.contains x = true := by
  simp only [Fits, takes_identifier_iff]
  constructor
  · rintro ⟨w, r, k, rfl, ⟨x, v, rfl, hx, -⟩, -⟩
    exact ⟨x, v ++ r, rfl, hx⟩
  · rintro ⟨x, r, rfl, hx⟩
    exact ⟨[x], r, [], rfl, ⟨x, [], rfl, hx, by simp⟩, rfl⟩

/-- Where an identifier ends is clear from the text. -/
theorem Identifier.append_inj {m n u v : Text} {x y : Char} (hm : Identifier m)
    (hn : Identifier n) (hx : identifierPart.contains x = false)
    (hy : identifierPart.contains y = false) (h : m ++ x :: u = n ++ y :: v) :
    m = n ∧ x = y ∧ u = v :=
  append_cons_inj hm.forall_mem hn.forall_mem (by simp [hx]) (by simp [hy]) h

end Lexeme

/-! ### Patterns that take all they can -/

namespace Pattern

/-- The match that the pattern prefers ends at a place of the given kind. -/
def StopsAt (p : Pattern) (Q : Cursor → Prop) : Prop :=
  ∀ t u, (p.ends t).head? = some u → Q u.place

theorem StopsAt.seq {q : Pattern} {Q : Cursor → Prop} (h : q.StopsAt Q) (p : Pattern) :
    (seq p q).StopsAt Q := by
  intro t u hu
  rw [ends, Thread.head?_distinct, List.head?_flatMap] at hu
  obtain ⟨v, -, hv⟩ := List.exists_of_findSome?_eq_some hu
  exact h v u hv

theorem StopsAt.group {p : Pattern} {Q : Cursor → Prop} (h : p.StopsAt Q) (i : Nat) :
    (group i p).StopsAt Q := by
  intro t u hu
  rw [ends, List.head?_map, Option.map_eq_some_iff] at hu
  obtain ⟨v, hv, rfl⟩ := hu
  exact h t v hv

/-- A sequence stops where its last pattern does. -/
theorem StopsAt.seqs {q : Pattern} {Q : Cursor → Prop} (h : q.StopsAt Q) (p : Pattern)
    (ps : List Pattern) : (seqs (p :: ps ++ [q])).StopsAt Q := by
  show (List.foldl Pattern.seq p (ps ++ [q])).StopsAt Q
  rw [List.foldl_append]
  exact h.seq _

theorem StopsAt.stop {p : Pattern} {Q : Cursor → Prop} (h : p.StopsAt Q) {place : Cursor}
    {m : Match} (hm : p.matchAt? place = some m) : Q m.stop := by
  unfold matchAt? at hm
  split at hm
  · cases hm
  · next t ts hends =>
    obtain rfl := Option.some.inj hm
    exact h _ t (by rw [hends]; rfl)

/-- An optional character is taken where it stands. -/
theorem stopsAt_optional (c : Char) : (optional (word [c])).StopsAt fun place =>
    place.before.head? = some c ∨ place.after.head? ≠ some c := by
  intro t u hu
  rw [optional, ends, Thread.cross?] at hu
  rw [Thread.head?_distinct, List.head?_append, ends, ends] at hu
  split at hu
  · next place hplace =>
    obtain rfl := Option.some.inj hu
    rw [t.place.eq_between, Cursor.afterWord?_eq_some_iff] at hplace
    obtain ⟨r, -, rfl⟩ := hplace
    exact .inl rfl
  · next hplace =>
    obtain rfl := Option.some.inj hu
    refine .inr fun hhead => ?_
    obtain ⟨r, hr⟩ := List.head?_eq_some_iff.1 hhead
    have hword : Cursor.afterWord? [c] (.between t.place.before (c :: r)) = some _ :=
      Cursor.afterWord?_eq_some_iff.2 ⟨r, rfl, rfl⟩
    rw [t.place.eq_between, hr, hword] at hplace
    cases hplace

/-- The match that the pattern prefers does not end before a character of the set. -/
def Exhausts (p : Pattern) (set : CharSet) : Prop :=
  ∀ t u, (p.ends t).head? = some u → Anchor.nearest set.contains u.place.after = false

theorem Exhausts.stopsAt {p : Pattern} {set : CharSet} (h : p.Exhausts set) :
    p.StopsAt fun place => Anchor.nearest set.contains place.after = false := h

theorem nearest_along {mark : Option Nat} {set : CharSet} {cs : Text} {t u : Thread}
    {reached : List Thread} (hcs : t.place.after = cs)
    (h : (Thread.along mark set cs t reached).head? = some u) :
    Anchor.nearest set.contains u.place.after = false := by
  induction cs generalizing t reached with
  | nil =>
      obtain rfl := Option.some.inj h
      rw [hcs]
      rfl
  | cons c cs ih =>
      rw [Thread.along] at h
      split at h
      · exact ih rfl h
      · next hc =>
        obtain rfl := Option.some.inj h
        rw [hcs]
        exact Bool.eq_false_iff.2 hc

theorem exhausts_many (set : CharSet) : (many set).Exhausts set := by
  intro t u h
  exact nearest_along rfl h

theorem Exhausts.seq {q : Pattern} {set : CharSet} (h : q.Exhausts set) (p : Pattern) :
    (seq p q).Exhausts set := h.stopsAt.seq p

theorem Exhausts.group {p : Pattern} {set : CharSet} (h : p.Exhausts set) (i : Nat) :
    (group i p).Exhausts set := h.stopsAt.group i

/-- A sequence takes all that its last pattern takes. -/
theorem Exhausts.seqs {q : Pattern} {set : CharSet} (h : q.Exhausts set) (p : Pattern)
    (ps : List Pattern) : (seqs (p :: ps ++ [q])).Exhausts set := h.stopsAt.seqs p ps

theorem Exhausts.nearest_stop {p : Pattern} {set : CharSet} (h : p.Exhausts set) {place : Cursor}
    {m : Match} (hm : p.matchAt? place = some m) :
    Anchor.nearest set.contains m.stop.after = false := h.stopsAt.stop hm

theorem exhausts_identifier : Lexeme.identifier.Exhausts Lexeme.identifierPart :=
  (exhausts_many _).seq _

end Pattern

end CodeMigration
