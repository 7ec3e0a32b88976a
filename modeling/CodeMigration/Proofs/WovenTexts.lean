import CodeMigration.Proofs.ExportedNames

/-!
# CodeMigration.Proofs.WovenTexts

Texts with the word `export` put in at some places and with some characters left out (`woven`).
Edits that are carried out in order come to that, but a word is lost where the character before
which it is to stand is taken away (`applyEdits_eq_woven`).

When a text is woven in two ways, leaving out the same characters, then the results differ where
the numbers of words before some character that stays differ. That is not clear from the words
alone, for the text itself may hold the word; it is so when words are put in at the start of lines
and never before an `e` (`woven_eq_iff`).
-/

namespace CodeMigration.NamedExports

/-! ### Words put in, characters left out -/

/-- The word `export`, a number of times. -/
def exportWords (n : Nat) : Text := (List.replicate n "export ".toList).flatten

/-- The text from an offset on, with words put in at its places and without some of its
characters. -/
def woven (words : Nat → Nat) (gone : Nat → Bool) (offset : Nat) : Text → Text
  | [] => exportWords (words offset)
  | c :: rest =>
    exportWords (words offset) ++
      ((if gone offset then [] else [c]) ++ woven words gone (offset + 1) rest)

theorem exportWords_zero : exportWords 0 = [] := rfl

theorem exportWords_add (n k : Nat) : exportWords (n + k) = exportWords n ++ exportWords k := by
  rw [exportWords, ← List.replicate_append_replicate, List.flatten_append]
  rfl

theorem length_exportWords (n : Nat) : (exportWords n).length = 7 * n := by
  simp [exportWords, Nat.mul_comm]

theorem exportWords_inj {n k : Nat} : exportWords n = exportWords k ↔ n = k := by
  refine ⟨fun h => ?_, congrArg exportWords⟩
  have := congrArg List.length h
  rw [length_exportWords, length_exportWords] at this
  omega

theorem exportWords_succ_eq_cons (n : Nat) :
    exportWords (n + 1) = 'e' :: ("xport ".toList ++ exportWords n) := rfl

theorem mem_exportWords {n : Nat} {c : Char} (h : c ∈ exportWords n) : c ∈ "export ".toList := by
  obtain ⟨w, hw, hc⟩ := List.mem_flatten.1 h
  rwa [List.eq_of_mem_replicate hw] at hc

theorem woven_congr {words words' : Nat → Nat} {gone gone' : Nat → Bool} {offset : Nat}
    {text : Text} (h : ∀ i, offset ≤ i → words i = words' i ∧ gone i = gone' i) :
    woven words gone offset text = woven words' gone' offset text := by
  induction text generalizing offset with
  | nil => rw [woven, woven, (h offset (Nat.le_refl _)).1]
  | cons c rest ih =>
      rw [woven, woven, (h offset (Nat.le_refl _)).1, (h offset (Nat.le_refl _)).2,
        ih fun i hi => h i (by omega)]

/-- A stretch without words stays as a whole or is left out as a whole. -/
theorem woven_stretch {words : Nat → Nat} {gone : Nat → Bool} {all : Bool} {text : Text}
    {offset k : Nat} (hk : k ≤ text.length)
    (h : ∀ i, offset ≤ i → i < offset + k → words i = 0 ∧ gone i = all) :
    woven words gone offset text =
      (if all then [] else text.take k) ++ woven words gone (offset + k) (text.drop k) := by
  induction k generalizing offset text with
  | zero => cases all <;> simp
  | succ k ih =>
      cases text with
      | nil => simp at hk
      | cons c rest =>
          obtain ⟨hwords, hgone⟩ := h offset (Nat.le_refl _) (by omega)
          have hnext : ∀ i, offset + 1 ≤ i → i < offset + 1 + k → words i = 0 ∧ gone i = all :=
            fun i hi hlt => h i (by omega) (by omega)
          have hrest := ih (Nat.le_of_succ_le_succ hk) hnext
          rw [woven, hwords, hgone, exportWords_zero, List.nil_append, hrest, List.take_succ_cons,
            List.drop_succ_cons, Nat.add_right_comm, Nat.add_assoc]
          cases all <;> simp

theorem woven_succ {words words' : Nat → Nat} {gone : Nat → Bool} {offset : Nat}
    (hword : words' offset = words offset + 1) (h : ∀ i, offset < i → words' i = words i)
    (text : Text) :
    woven words' gone offset text = "export ".toList ++ woven words gone offset text := by
  have hwords : exportWords (words' offset) = "export ".toList ++ exportWords (words offset) := by
    rw [hword, Nat.add_comm, exportWords_add]
    rfl
  cases text with
  | nil => exact hwords
  | cons c rest =>
      rw [woven, woven, hwords, List.append_assoc,
        woven_congr fun i hi => ⟨h i hi, rfl⟩]

/-! ### Edits in order -/

/-- How many of the edits put the word in at the offset. -/
def wordsAt (edits : List Edit) (i : Nat) : Nat :=
  edits.countP fun e => !e.inserted.isEmpty && e.offset == i

/-- Does one of the edits take the character at the offset away? -/
def takenAway (edits : List Edit) (i : Nat) : Bool :=
  edits.any fun e => decide (e.offset ≤ i) && decide (i < e.offset + e.removed)

/-- How many words stay of those that the edits put in at the offset: none at a character that is
taken away. -/
def wordsLeft (edits : List Edit) (i : Nat) : Nat :=
  if takenAway edits i then 0 else wordsAt edits i

/-- An edit that puts the word in. -/
def Edit.IsWord (e : Edit) : Prop := e.removed = 0 ∧ e.inserted = "export ".toList

/-- An edit that takes characters away. -/
def Edit.IsCut (e : Edit) : Prop := 0 < e.removed ∧ e.inserted = []

/-- Every edit puts the word in or takes characters away, never both at one offset, and the places
of the words are in the text, which begins at the offset. -/
structure Tidy (offset : Nat) (text : Text) (edits : List Edit) : Prop where
  cases : ∀ e ∈ edits, e.IsWord ∨ e.IsCut
  apart : ∀ d ∈ edits, ∀ e ∈ edits, d.IsWord → e.IsCut → d.offset ≠ e.offset
  inside : ∀ e ∈ edits, e.offset ≤ offset + text.length

theorem Tidy.tail {offset : Nat} {text : Text} {e : Edit} {edits : List Edit}
    (h : Tidy offset text (e :: edits)) : Tidy offset text edits where
  cases d hd := h.cases d (List.mem_cons_of_mem e hd)
  apart d hd d' hd' := h.apart d (List.mem_cons_of_mem e hd) d' (List.mem_cons_of_mem e hd')
  inside d hd := h.inside d (List.mem_cons_of_mem e hd)

theorem Tidy.drop {offset k : Nat} {text : Text} {edits : List Edit} (h : Tidy offset text edits)
    (hk : k ≤ text.length) : Tidy (offset + k) (text.drop k) edits where
  cases := h.cases
  apart := h.apart
  inside e he := by
    have := h.inside e he
    rw [List.length_drop]
    omega

theorem wordsAt_cons_word {e : Edit} (he : e.IsWord) (edits : List Edit) (i : Nat) :
    wordsAt (e :: edits) i = wordsAt edits i + if e.offset = i then 1 else 0 := by
  simp [wordsAt, List.countP_cons, he.2]

theorem wordsAt_cons_cut {e : Edit} (he : e.IsCut) (edits : List Edit) (i : Nat) :
    wordsAt (e :: edits) i = wordsAt edits i := by
  simp [wordsAt, he.2]

theorem takenAway_cons_word {e : Edit} (he : e.IsWord) (edits : List Edit) (i : Nat) :
    takenAway (e :: edits) i = takenAway edits i := by
  have hno : (decide (e.offset ≤ i) && decide (i < e.offset + e.removed)) = false := by
    rw [he.1]
    simp
  rw [takenAway, List.any_cons, hno, Bool.false_or]
  rfl

theorem takenAway_cons_cut (e : Edit) (edits : List Edit) {i : Nat}
    (h : i < e.offset ∨ e.offset + e.removed ≤ i) :
    takenAway (e :: edits) i = takenAway edits i := by
  have hno : (decide (e.offset ≤ i) && decide (i < e.offset + e.removed)) = false := by
    simp
    omega
  rw [takenAway, List.any_cons, hno, Bool.false_or]
  rfl

theorem wordsAt_eq_zero {edits : List Edit} {i : Nat} (h : ∀ e ∈ edits, i < e.offset) :
    wordsAt edits i = 0 := by
  refine List.countP_eq_zero.2 fun e he => ?_
  have := h e he
  simp
  omega

theorem takenAway_eq_false {edits : List Edit} {i : Nat}
    (h : ∀ e ∈ edits, e.removed = 0 ∨ i < e.offset) : takenAway edits i = false := by
  refine List.any_eq_false.2 fun e he => ?_
  have := h e he
  simp
  omega

/-- Before the first edit nothing changes. -/
theorem wordsLeft_eq_zero {edits : List Edit} {i : Nat} (h : ∀ e ∈ edits, i < e.offset) :
    wordsLeft edits i = 0 ∧ takenAway edits i = false := by
  have hgone := takenAway_eq_false fun e he => .inr (h e he)
  rw [wordsLeft, hgone]
  exact ⟨wordsAt_eq_zero h, rfl⟩

/-! ### What one edit does -/

section Steps

variable {e : Edit} {edits : List Edit} {offset : Nat} {text : Text}

/-- Nothing comes of a word that lies before the text. -/
theorem woven_cons_passed (hword : e.IsWord) (hlt : e.offset < offset) :
    woven (wordsLeft (e :: edits)) (takenAway (e :: edits)) offset text =
      woven (wordsLeft edits) (takenAway edits) offset text := by
  refine woven_congr fun i hi => ?_
  rw [wordsLeft, wordsLeft, takenAway_cons_word hword, wordsAt_cons_word hword,
    if_neg (by omega : e.offset ≠ i), Nat.add_zero]
  exact ⟨rfl, rfl⟩

/-- The text stays up to the first edit. -/
theorem woven_gap {gap : Nat} (hgap : e.offset = offset + gap)
    (hfirst : ∀ d ∈ edits, e.offset ≤ d.offset) (hlength : gap ≤ text.length) :
    woven (wordsLeft (e :: edits)) (takenAway (e :: edits)) offset text = text.take gap ++
      woven (wordsLeft (e :: edits)) (takenAway (e :: edits)) e.offset (text.drop gap) := by
  have hbefore : ∀ i, offset ≤ i → i < offset + gap →
      wordsLeft (e :: edits) i = 0 ∧ takenAway (e :: edits) i = false := by
    intro i _ hlt
    refine wordsLeft_eq_zero (List.forall_mem_cons.2 ⟨by omega, fun d hd => ?_⟩)
    have := hfirst d hd
    omega
  rw [woven_stretch hlength hbefore, hgap]
  rfl

/-- A word is put in, and the next edits go on at the same place. -/
theorem woven_cons_word (hword : e.IsWord) (hfirst : ∀ d ∈ edits, e.offset ≤ d.offset)
    (htidy : Tidy offset text (e :: edits)) (rest : Text) :
    woven (wordsLeft (e :: edits)) (takenAway (e :: edits)) e.offset rest =
      "export ".toList ++ woven (wordsLeft edits) (takenAway edits) e.offset rest := by
  have hsame : takenAway (e :: edits) = takenAway edits :=
    funext fun i => takenAway_cons_word hword edits i
  have hstays : takenAway edits e.offset = false := by
    refine takenAway_eq_false fun d hd => ?_
    have hle := hfirst d hd
    have hd' := List.mem_cons_of_mem e hd
    refine (htidy.cases d hd').imp (fun hdword => hdword.1) fun hdcut => ?_
    have := htidy.apart e List.mem_cons_self d hd' hword hdcut
    omega
  rw [hsame]
  refine woven_succ ?_ (fun i hi => ?_) rest
  · rw [wordsLeft, wordsLeft, hsame, hstays, wordsAt_cons_word hword, if_pos rfl]
    rfl
  · rw [wordsLeft, wordsLeft, hsame, wordsAt_cons_word hword, if_neg (by omega : e.offset ≠ i),
      Nat.add_zero]

/-- Characters are left out, and the next edits go on behind them. -/
theorem woven_cons_cut (hcut : e.IsCut) {rest : Text} (hlength : e.removed ≤ rest.length) :
    woven (wordsLeft (e :: edits)) (takenAway (e :: edits)) e.offset rest =
      woven (wordsLeft edits) (takenAway edits) (e.offset + e.removed) (rest.drop e.removed) := by
  have hgone : ∀ i, e.offset ≤ i → i < e.offset + e.removed →
      wordsLeft (e :: edits) i = 0 ∧ takenAway (e :: edits) i = true := by
    intro i hle hlt
    have htaken : takenAway (e :: edits) i = true :=
      List.any_eq_true.2 ⟨e, List.mem_cons_self, by simp [hle, hlt]⟩
    rw [wordsLeft, htaken]
    exact ⟨rfl, rfl⟩
  rw [woven_stretch hlength hgone, if_pos rfl, List.nil_append]
  refine woven_congr fun i hi => ?_
  rw [wordsLeft, wordsLeft, takenAway_cons_cut e edits (.inr hi), wordsAt_cons_cut hcut]
  exact ⟨rfl, rfl⟩

end Steps

/-- Edits in order put all their words in but those at characters that are taken away. -/
theorem applyEdits_eq_woven {edits : List Edit} {offset : Nat} {text : Text}
    (hsorted : edits.Pairwise fun d e => d.offset ≤ e.offset) (hfitting : Fitting offset text edits)
    (htidy : Tidy offset text edits) :
    applyEdits offset text edits = woven (wordsLeft edits) (takenAway edits) offset text := by
  induction edits generalizing offset text with
  | nil =>
      rw [woven_stretch (Nat.le_refl _) fun i _ _ => wordsLeft_eq_zero (by simp), List.drop_length]
      simp [applyEdits, woven, wordsLeft, takenAway, wordsAt, exportWords_zero]
  | cons e edits ih =>
      obtain ⟨hfirst, hrest⟩ := List.pairwise_cons.1 hsorted
      have hkind := htidy.cases e List.mem_cons_self
      rcases Nat.lt_or_ge e.offset offset with hlt | hle
      · -- What is taken away lies in the text, so the edit that is passed over is a word.
        have hword : e.IsWord := hkind.resolve_right fun hcut =>
          Nat.not_le_of_lt hlt (hfitting.inside e List.mem_cons_self hcut.1).1
        rw [applyEdits_of_lt hlt, ih hrest hfitting.tail htidy.tail, woven_cons_passed hword hlt]
      · obtain ⟨gap, hgap⟩ : ∃ gap, e.offset = offset + gap := ⟨e.offset - offset, by omega⟩
        have hinside := htidy.inside e List.mem_cons_self
        have hlength : gap ≤ text.length := by omega
        have hfits := hfitting.drop hle
        rw [applyEdits_of_le hle, woven_gap hgap hfirst hlength, List.append_assoc]
        have hdiff : e.offset - offset = gap := by omega
        rw [hdiff] at hfits ⊢
        congr 1
        rcases hkind with hword | hcut
        · have htail : Tidy e.offset (text.drop gap) edits := hgap ▸ htidy.tail.drop hlength
          rw [hword.1, Nat.add_zero, Nat.add_zero] at hfits ⊢
          rw [hword.2, woven_cons_word hword hfirst htidy, ih hrest hfits htail]
        · have hspan := (hfitting.inside e List.mem_cons_self hcut.1).2
          have htail : Tidy (e.offset + e.removed) (text.drop (gap + e.removed)) edits := by
            rw [hgap, Nat.add_assoc]
            exact htidy.tail.drop (by omega)
          have hcutlength : e.removed ≤ (text.drop gap).length := by
            rw [List.length_drop]
            omega
          rw [hcut.2, List.nil_append, woven_cons_cut hcut hcutlength, List.drop_drop,
            ih hrest hfits htail]

/-! ### Texts woven in two ways -/

/-- How many words are put in at the characters left out right before an offset. -/
def gatheredBefore (words : Nat → Nat) (gone : Nat → Bool) : Nat → Nat
  | 0 => 0
  | k + 1 => if gone k then gatheredBefore words gone k + words k else 0

/-- The character that stays next before an offset. -/
def keptBefore (gone : Nat → Bool) (text : Text) : Nat → Option Char
  | 0 => none
  | k + 1 => if gone k then keptBefore gone text k else text[k]?

/-- Words are put in at the start of lines, and those of the first kind at characters that stay
and are not the first letter of the word. -/
structure Placed (words words' : Nat → Nat) (gone : Nat → Bool) (text : Text) : Prop where
  /-- What is left out is part of the text. -/
  within : ∀ i, gone i = true → i < text.length
  /-- A word of the first kind stands before a character that stays, never before an `e`. -/
  stays : ∀ i, 0 < words i → gone i = false ∧ ∃ c ∈ text[i]?, c ≠ 'e'
  /-- What stays before a word ends a line. -/
  lines : ∀ i, 0 < words i ∨ 0 < words' i → ∀ c ∈ keptBefore gone text i, c = '\n'

/-- A text that goes on as before behind some words consists of the word's letters. -/
theorem mem_of_append_eq_exportWords {k : Nat} {x u v : Text}
    (h : x ++ u = exportWords (k + 1) ++ (x ++ v)) : ∀ c ∈ x, c ∈ "export ".toList := by
  induction hlength : x.length using Nat.strongRecOn generalizing x with
  | ind n ih =>
      rcases List.append_eq_append_iff.1 h with ⟨y, hwords, -⟩ | ⟨y, rfl, hrest⟩
      · exact fun c hc => mem_exportWords (hwords ▸ List.mem_append_left y hc)
      · rw [List.append_assoc] at hrest
        have hy := ih y.length (by rw [← hlength, List.length_append, length_exportWords]; omega)
          hrest.symm rfl
        exact List.forall_mem_append.2 ⟨fun c => mem_exportWords, hy⟩

section Comparison

variable {words words' : Nat → Nat} {gone : Nat → Bool} {text : Text}

theorem Placed.words_eq_zero (h : Placed words words' gone text) {i : Nat}
    (hi : gone i = true ∨ text[i]? = none) : words i = 0 := by
  refine Nat.eq_zero_of_not_pos fun hpos => ?_
  obtain ⟨hstays, c, hc, -⟩ := h.stays i hpos
  rcases hi with hi | hi
  · rw [hi] at hstays
    cases hstays
  · rw [hi] at hc
    cases hc

/-- One way of weaving never makes up for words that the other has put in before. -/
theorem Placed.woven_ne (h : Placed words words' gone text) {k : Nat} {u rest x : Text}
    (htext : text = u ++ rest) (hx : x ≠ [])
    (hlast : x.getLast? = keptBefore gone text u.length) :
    x ++ woven words gone u.length rest ≠
      exportWords (k + 1) ++ (x ++ woven words' gone u.length rest) := by
  -- On the way `x` gathers what both have kept, so it ends in the last character that stays.
  induction rest generalizing u x with
  | nil =>
      have hnone : words u.length = 0 := h.words_eq_zero (.inr (by simp [htext]))
      intro heq
      have hlength := congrArg List.length heq
      simp only [woven, hnone, exportWords_zero, List.append_nil, List.length_append,
        length_exportWords] at hlength
      omega
  | cons c rest ih =>
      intro heq
      by_cases hwords : words u.length = 0 ∧ words' u.length = 0
      · have hstep : text = (u ++ [c]) ++ rest := by simpa using htext
        have hchar : text[u.length]? = some c := by rw [htext]; simp
        rw [woven, woven, hwords.1, hwords.2, exportWords_zero, List.nil_append,
          List.nil_append] at heq
        cases hgone : gone u.length with
        | true =>
            refine ih hstep hx ?_ (by simpa [hgone] using heq)
            simpa [keptBefore, hgone] using hlast
        | false =>
            refine ih (x := x ++ [c]) hstep (by simp) ?_ (by simpa [hgone] using heq)
            simp [keptBefore, hgone, hchar]
      · -- The place begins a line, so the text before it is not made up of the word's letters.
        obtain ⟨front, d, rfl⟩ := (List.eq_nil_or_concat x).resolve_left hx
        have hd : d = '\n' := by
          refine h.lines u.length (by omega) d ?_
          rw [← hlast]
          simp
        have hmem := mem_of_append_eq_exportWords heq d (by simp)
        rw [hd] at hmem
        exact absurd hmem (by decide)

/-- At a character that stays, the words before it and the texts behind it are the same. -/
theorem Placed.woven_cons_eq_iff (h : Placed words words' gone text) {u rest : Text} {c : Char}
    {k : Nat} (htext : text = u ++ c :: rest) (hstays : gone u.length = false) :
    exportWords (words u.length) ++ c :: woven words gone (u.length + 1) rest =
        exportWords k ++ c :: woven words' gone (u.length + 1) rest ↔
      words u.length = k ∧
        woven words gone (u.length + 1) rest = woven words' gone (u.length + 1) rest := by
  have hchar : text[u.length]? = some c := by simp [htext]
  constructor
  · intro heq
    rcases Nat.lt_trichotomy (words u.length) k with hlt | hwords | hlt
    · obtain ⟨n, rfl⟩ := Nat.exists_eq_add_of_lt hlt
      rw [Nat.add_assoc, exportWords_add, List.append_assoc] at heq
      refine absurd (List.append_cancel_left heq) ?_
      have hstep : text = (u ++ [c]) ++ rest := by simpa using htext
      simpa using h.woven_ne (k := n) hstep (List.cons_ne_nil c [])
        (by simp [keptBefore, hstays, hchar])
    · rw [hwords] at heq
      exact ⟨hwords, (List.cons.inj (List.append_cancel_left heq)).2⟩
    · obtain ⟨-, d, hd, hne⟩ := h.stays u.length (by omega)
      obtain rfl : c = d := Option.some.inj (hchar.symm.trans hd)
      obtain ⟨n, hn⟩ := Nat.exists_eq_add_of_lt hlt
      rw [hn, Nat.add_assoc, exportWords_add, List.append_assoc, exportWords_succ_eq_cons] at heq
      exact absurd (List.cons.inj (List.append_cancel_left heq)).1.symm hne
  · rintro ⟨rfl, heq⟩
    rw [heq]

theorem forall_le_iff {P : Nat → Prop} {k : Nat} :
    (∀ i, k ≤ i → P i) ↔ P k ∧ ∀ i, k + 1 ≤ i → P i := by
  refine ⟨fun h => ⟨h k (Nat.le_refl k), fun i hi => h i (Nat.le_of_succ_le hi)⟩, ?_⟩
  rintro ⟨hk, h⟩ i hi
  rcases Nat.eq_or_lt_of_le hi with rfl | hlt
  · exact hk
  · exact h i hlt

theorem exists_le_iff {P : Nat → Prop} {k : Nat} :
    (∃ i, k ≤ i ∧ P i) ↔ P k ∨ ∃ i, k + 1 ≤ i ∧ P i := by
  rw [← not_iff_not]
  simpa using forall_le_iff (P := fun i => ¬ P i)

theorem Placed.woven_eq_iff_from (h : Placed words words' gone text) {u rest : Text}
    (htext : text = u ++ rest) :
    woven words gone u.length rest =
        exportWords (gatheredBefore words' gone u.length) ++ woven words' gone u.length rest ↔
      ∀ i, u.length ≤ i → i ≤ text.length → gone i = false →
        words i = gatheredBefore words' gone i + words' i := by
  induction rest generalizing u with
  | nil =>
      have hlength : u.length = text.length := by simp [htext]
      have hstays : gone u.length = false := by
        refine Bool.eq_false_iff.2 fun hgone => ?_
        exact Nat.lt_irrefl _ (hlength ▸ h.within _ hgone)
      rw [woven, woven, ← exportWords_add, exportWords_inj, forall_le_iff]
      refine ⟨fun heq => ⟨fun _ _ => heq, fun i hi hle => ?_⟩, fun hall => ?_⟩
      · omega
      · exact hall.1 (Nat.le_of_eq hlength) hstays
  | cons c rest ih =>
      have hrest := ih (u := u ++ [c]) (by simpa using htext)
      rw [List.length_append, List.length_singleton] at hrest
      have hle : u.length ≤ text.length := by simp [htext]
      rw [woven, woven, ← List.append_assoc (exportWords _) (exportWords _), ← exportWords_add,
        forall_le_iff]
      cases hgone : gone u.length with
      | true =>
          have hnone : words u.length = 0 := h.words_eq_zero (.inl hgone)
          rw [gatheredBefore, if_pos hgone] at hrest
          rw [hnone, exportWords_zero, if_pos rfl, List.nil_append, List.nil_append,
            List.nil_append, hrest]
          simp
      | false =>
          have hnone : gatheredBefore words' gone (u.length + 1) = 0 := by
            rw [gatheredBefore, hgone]
            rfl
          rw [hnone, exportWords_zero, List.nil_append] at hrest
          have hstep := h.woven_cons_eq_iff
            (k := gatheredBefore words' gone u.length + words' u.length) htext hgone
          rw [hrest] at hstep
          simpa [hle] using hstep

/-- Two ways of weaving a text come to the same just if they put as many words in before each
character that stays, and at the end. -/
theorem Placed.woven_eq_iff (h : Placed words words' gone text) :
    woven words gone 0 text = woven words' gone 0 text ↔
      ∀ i ≤ text.length, gone i = false → words i = gatheredBefore words' gone i + words' i := by
  have hfrom := h.woven_eq_iff_from (List.nil_append text).symm
  simpa [gatheredBefore, exportWords_zero] using hfrom

end Comparison

end CodeMigration.NamedExports
