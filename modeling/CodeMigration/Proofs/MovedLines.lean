import CodeMigration.Proofs.FoundDeclarations
import CodeMigration.Proofs.WovenTexts

/-!
# CodeMigration.Proofs.MovedLines

What is left of a text when default exports are moved to their declarations. Each line that is
moved brings its own word along, and two things can go wrong with that. Lines that share a
declaration put the word in once each; and a declaration that begins inside a line that is moved
loses its word, for the edit lies before the place that is reached.

`moveTrailing_eq` gives all that the rule does to a text, and `movesExactly_iff` says when it comes
to one word at each declaration.
-/

namespace CodeMigration.NamedExports

open Lexeme Pattern

/-! ### Lines and declarations -/

/-- The lines that export a name as the default whose declaration is found. -/
def movedLines (text : Text) : List Match :=
  (trailingDefault.matchesIn text).filter fun m =>
    (declarationStart? text (m.group exportGroup)).isSome

/-- Where the declarations of the moved lines begin, line by line. -/
def declarationPlaces (text : Text) : List Nat :=
  (trailingDefault.matchesIn text).filterMap fun m =>
    (declarationStart? text (m.group exportGroup)).map (·.offset)

/-- Is the character at the offset in a line that is moved? -/
def inMovedLine (text : Text) (i : Nat) : Bool :=
  (movedLines text).any fun m => decide (m.start.offset ≤ i) && decide (i < m.stop.offset)

/-- One word for each place where a declaration begins. -/
def declaredAt (text : Text) (i : Nat) : Nat := if i ∈ declarationPlaces text then 1 else 0

/-- The rule takes the moved lines away, puts one word in at each declaration and changes nothing
else. -/
def MovesExactly (text : Text) : Prop :=
  moveTrailing text = woven (declaredAt text) (inMovedLine text) 0 text

instance (text : Text) : Decidable (MovesExactly text) := inferInstanceAs (Decidable (_ = _))

/-! ### The edits of a line -/

theorem perm_sortEdits (edits : List Edit) : (sortEdits edits).Perm edits :=
  List.mergeSort_perm edits _

theorem wordsAt_append (es fs : List Edit) (i : Nat) :
    wordsAt (es ++ fs) i = wordsAt es i + wordsAt fs i := List.countP_append

theorem wordsAt_editsFor (text : Text) {m : Match} (hm : m.start.offset < m.stop.offset) (i : Nat) :
    wordsAt (editsFor text m) i =
      (((declarationStart? text (m.group exportGroup)).map (·.offset)).toList).count i := by
  unfold editsFor
  cases declarationStart? text (m.group exportGroup) with
  | none => rfl
  | some start =>
      have hword : Edit.IsWord ⟨start.offset, 0, "export ".toList⟩ := ⟨rfl, rfl⟩
      have hcut : Edit.IsCut ⟨m.start.offset, m.stop.offset - m.start.offset, []⟩ :=
        ⟨Nat.sub_pos_of_lt hm, rfl⟩
      rw [wordsAt_cons_word hword, wordsAt_cons_cut hcut]
      simp [wordsAt, List.count_cons]

/-- The edits put a word in for each line whose declaration begins at the offset. -/
theorem wordsAt_trailingEdits (text : Text) (i : Nat) :
    wordsAt (sortEdits (trailingEdits text)) i = (declarationPlaces text).count i := by
  have hflat : ∀ ms : List Match, (∀ m ∈ ms, m.start.offset < m.stop.offset) →
      wordsAt (ms.flatMap (editsFor text)) i = (ms.filterMap fun m =>
        (declarationStart? text (m.group exportGroup)).map (·.offset)).count i := by
    intro ms hms
    induction ms with
    | nil => rfl
    | cons m ms ih =>
        obtain ⟨hm, hrest⟩ := List.forall_mem_cons.1 hms
        rw [List.flatMap_cons, wordsAt_append, wordsAt_editsFor text hm, ih hrest,
          ← List.count_append]
        cases hstart : declarationStart? text (m.group exportGroup) <;> simp [hstart]
  rw [wordsAt, (perm_sortEdits _).countP_eq, ← wordsAt, trailingEdits_eq]
  exact hflat _ fun m hm => by have := length_of_mem_matchesIn hm; omega

theorem mem_trailingEdits_iff {text : Text} {e : Edit} :
    e ∈ trailingEdits text ↔ ∃ m ∈ trailingDefault.matchesIn text, ∃ start,
      declarationStart? text (m.group exportGroup) = some start ∧
        (e = ⟨start.offset, 0, "export ".toList⟩ ∨
          e = ⟨m.start.offset, m.stop.offset - m.start.offset, []⟩) := by
  rw [trailingEdits_eq, List.mem_flatMap]
  refine exists_congr fun m => and_congr_right fun _ => ?_
  rw [editsFor]
  cases declarationStart? text (m.group exportGroup) <;> simp

theorem inMovedLine_iff {text : Text} {i : Nat} :
    inMovedLine text i = true ↔ ∃ m ∈ trailingDefault.matchesIn text,
      (∃ start, declarationStart? text (m.group exportGroup) = some start) ∧
        m.start.offset ≤ i ∧ i < m.stop.offset := by
  simp [inMovedLine, movedLines, Option.isSome_iff_exists]

/-- The edits take the moved lines away. -/
theorem takenAway_trailingEdits (text : Text) (i : Nat) :
    takenAway (sortEdits (trailingEdits text)) i = inMovedLine text i := by
  rw [Bool.eq_iff_iff, inMovedLine_iff, takenAway, List.any_eq_true]
  simp only [(perm_sortEdits _).mem_iff, mem_trailingEdits_iff, Bool.and_eq_true,
    decide_eq_true_eq]
  constructor
  · rintro ⟨e, ⟨m, hm, start, hstart, rfl | rfl⟩, hle, hlt⟩
    · exact absurd hlt (Nat.not_lt.2 hle)
    · exact ⟨m, hm, ⟨start, hstart⟩, hle, by simp only at hle hlt; omega⟩
  · rintro ⟨m, hm, ⟨start, hstart⟩, hle, hlt⟩
    exact ⟨_, ⟨m, hm, start, hstart, .inr rfl⟩, hle, by simp only; omega⟩

/-! ### Where lines and declarations begin -/

/-- A line begins at the offset. -/
def BeginsLine (text : Text) : Nat → Prop
  | 0 => True
  | k + 1 => text[k]? = some '\n'

theorem beginsLine_of_holds {u a : Text}
    (h : Anchor.lineStart.holds (.between u.reverse a) = true) : BeginsLine (u ++ a) u.length := by
  rcases List.eq_nil_or_concat u with rfl | ⟨u, c, rfl⟩
  · trivial
  · rw [List.concat_eq_append] at h ⊢
    obtain rfl : c = '\n' := by simpa [Anchor.holds, Anchor.nearest] using h
    simp [BeginsLine]

theorem beginsLine_of_mem_matchesIn {text : Text} {m : Match}
    (h : m ∈ trailingDefault.matchesIn text) :
    BeginsLine text m.start.offset ∧ text[m.start.offset]? = some 'e' := by
  obtain ⟨b, w, r, k, rfl, htakes, htext⟩ :=
    (scans_matchesIn isPlain_trailingDefault isSolid_trailingDefault text).exists_taken m h
  obtain ⟨s, t, n, e, rfl, -, -, -, hline, -⟩ := takes_trailingDefault htakes
  obtain rfl : text = b.reverse ++ ("export".toList ++ s ++ "default".toList ++ t ++ n ++ e ++ r) := by
    simpa using htext
  exact ⟨by simpa using beginsLine_of_holds (u := b.reverse) (by simpa using hline), by simp⟩

theorem beginsLine_of_declarationStart? {text name : Text} {start : Cursor}
    (h : declarationStart? text name = some start) :
    BeginsLine text start.offset ∧
      ∃ c ∈ text[start.offset]?, c ∈ ['a', 'f', 'c', 'l', 'v'] := by
  obtain ⟨u, a, rfl, hu, hfits⟩ := (readAt_of_declarationStart? h).1
  obtain ⟨hline, head, rest, rfl, hhead, -⟩ := fits_declarationOf_iff.1 hfits
  obtain ⟨c, head, rfl, hc⟩ := hhead.exists_cons
  rw [← hu]
  exact ⟨beginsLine_of_holds hline, c, by simp, hc⟩

theorem beginsLine_of_mem_declarationPlaces {text : Text} {i : Nat}
    (h : i ∈ declarationPlaces text) :
    BeginsLine text i ∧ ∃ c ∈ text[i]?, c ∈ ['a', 'f', 'c', 'l', 'v'] := by
  obtain ⟨m, -, hplace⟩ := List.mem_filterMap.1 h
  obtain ⟨start, hstart, rfl⟩ := Option.map_eq_some_iff.1 hplace
  exact beginsLine_of_declarationStart? hstart

theorem keptBefore_eq_of_gone {gone : Nat → Bool} {text : Text} {i k : Nat} (hik : i ≤ k)
    (h : ∀ j, i ≤ j → j < k → gone j = true) : keptBefore gone text k = keptBefore gone text i := by
  induction hik with
  | refl => rfl
  | step hle ih =>
      rw [keptBefore, if_pos (h _ hle (Nat.lt_succ_self _))]
      exact ih fun j hij hjk => h j hij (Nat.lt_succ_of_lt hjk)

/-- Where a line begins, what stays before it ends a line: a line that is moved goes as a whole up
to there. -/
theorem BeginsLine.keptBefore {text : Text} {i : Nat} (h : BeginsLine text i) :
    ∀ c ∈ keptBefore (inMovedLine text) text i, c = '\n' := by
  induction i using Nat.strongRecOn with
  | ind i ih =>
      cases i with
      | zero => simp [NamedExports.keptBefore]
      | succ k =>
          cases hgone : inMovedLine text k with
          | true =>
              obtain ⟨m, hm, hfound, hle, hlt⟩ := inMovedLine_iff.1 hgone
              have hall : ∀ j, m.start.offset ≤ j → j < k + 1 → inMovedLine text j = true :=
                fun j hj hjk => inMovedLine_iff.2 ⟨m, hm, hfound, hj, by omega⟩
              rw [keptBefore_eq_of_gone (by omega) hall]
              exact ih _ (by omega) (beginsLine_of_mem_matchesIn hm).1
          | false =>
              have hchar : text[k]? = some '\n' := h
              simp [NamedExports.keptBefore, hgone, hchar]

/-! ### All that the rule does -/

/-- The words that the rule puts in at an offset: one for each line that is moved to the
declaration there, and none inside a line that is moved. -/
def wordsMoved (text : Text) (i : Nat) : Nat :=
  if inMovedLine text i then 0 else (declarationPlaces text).count i

theorem wordsMoved_pos_iff {text : Text} {i : Nat} :
    0 < wordsMoved text i ↔ inMovedLine text i = false ∧ i ∈ declarationPlaces text := by
  rw [wordsMoved]
  cases inMovedLine text i <;> simp [List.count_pos_iff]

theorem declaredAt_pos_iff {text : Text} {i : Nat} :
    0 < declaredAt text i ↔ i ∈ declarationPlaces text := by
  rw [declaredAt]
  split <;> simp [*]

theorem tidy_trailingEdits (text : Text) : Tidy 0 text (sortEdits (trailingEdits text)) := by
  have hmem : ∀ e ∈ sortEdits (trailingEdits text), e ∈ trailingEdits text := fun e =>
    (perm_sortEdits _).mem_iff.1
  have hlength : ∀ m ∈ trailingDefault.matchesIn text, 0 < m.stop.offset - m.start.offset := by
    intro m hm
    have := length_of_mem_matchesIn hm
    omega
  refine ⟨fun e he => ?_, fun d hd e he hword hcut heq => ?_, fun e he => ?_⟩
  · obtain ⟨m, hm, start, -, rfl | rfl⟩ := mem_trailingEdits_iff.1 (hmem e he)
    · exact .inl ⟨rfl, rfl⟩
    · exact .inr ⟨hlength m hm, rfl⟩
  · obtain ⟨m, hm, start, hstart, rfl | rfl⟩ := mem_trailingEdits_iff.1 (hmem d hd)
    · obtain ⟨m', hm', start', -, rfl | rfl⟩ := mem_trailingEdits_iff.1 (hmem e he)
      · exact Nat.lt_irrefl 0 hcut.1
      · -- A declaration does not begin with the first letter of a line that is moved.
        obtain ⟨-, c, hc, hinitial⟩ := beginsLine_of_declarationStart? hstart
        have hline := (beginsLine_of_mem_matchesIn hm').2
        simp only at heq
        rw [heq, hline] at hc
        obtain rfl := Option.some.inj hc
        exact absurd hinitial (by decide)
    · exact absurd (hlength m hm) (Nat.not_lt.2 (Nat.le_of_eq hword.1))
  · rw [Nat.zero_add]
    exact (clear_of_mem_trailingEdits (hmem e he)).2.1

/-- All that the rule does: the moved lines go, and every line that is moved to a declaration that
stays puts a word in there. -/
theorem moveTrailing_eq (text : Text) :
    moveTrailing text = woven (wordsMoved text) (inMovedLine text) 0 text := by
  rw [moveTrailing, applyEdits_eq_woven (pairwise_sortEdits _) (fitting_trailingEdits text)
    (tidy_trailingEdits text)]
  refine woven_congr fun i _ => ⟨?_, takenAway_trailingEdits text i⟩
  rw [wordsLeft, wordsMoved, takenAway_trailingEdits, wordsAt_trailingEdits]

theorem placed_declarations (text : Text) :
    Placed (wordsMoved text) (declaredAt text) (inMovedLine text) text := by
  refine ⟨fun i hgone => ?_, fun i hpos => ?_, fun i hpos => ?_⟩
  · obtain ⟨m, hm, -, -, hlt⟩ := inMovedLine_iff.1 hgone
    exact Nat.lt_of_lt_of_le hlt (length_of_mem_matchesIn hm).2
  · obtain ⟨hstays, hmem⟩ := wordsMoved_pos_iff.1 hpos
    obtain ⟨-, c, hc, hinitial⟩ := beginsLine_of_mem_declarationPlaces hmem
    exact ⟨hstays, c, hc, ne_of_mem_of_not_mem hinitial (by decide)⟩
  · have hmem : i ∈ declarationPlaces text :=
      hpos.elim (fun h => (wordsMoved_pos_iff.1 h).2) declaredAt_pos_iff.1
    exact (beginsLine_of_mem_declarationPlaces hmem).1.keptBefore

/-! ### One word for each declaration -/

/-- Where each line is moved to a declaration of its own, and none of these begins in a line that
is moved, the rule does all that it should. -/
theorem movesExactly_of_nodup {text : Text} (hnodup : (declarationPlaces text).Nodup)
    (hstay : ∀ i ∈ declarationPlaces text, inMovedLine text i = false) : MovesExactly text := by
  rw [MovesExactly, moveTrailing_eq]
  refine woven_congr fun i _ => ⟨?_, rfl⟩
  rw [wordsMoved, declaredAt, hnodup.count]
  by_cases hmem : i ∈ declarationPlaces text
  · rw [hstay i hmem]
    rfl
  · rw [if_neg hmem, ite_self]

/-- The rule does what it should just if before each character that stays, and at the end, as many
lines have their declaration there as there are declarations, those counted that begin inside the
moved lines right before it. -/
theorem movesExactly_iff (text : Text) :
    MovesExactly text ↔ ∀ i ≤ text.length, inMovedLine text i = false →
      (declarationPlaces text).count i =
        gatheredBefore (declaredAt text) (inMovedLine text) i + declaredAt text i := by
  rw [MovesExactly, moveTrailing_eq, (placed_declarations text).woven_eq_iff]
  refine forall_congr' fun i => forall_congr' fun _ => forall_congr' fun hstays => ?_
  rw [wordsMoved, hstays]
  rfl

/-- Two lines that share a declaration put the word in twice. -/
theorem not_movesExactly_two_lines :
    ¬ MovesExactly "const A = 1\nexport default A\nexport default A\n".toList := by
  rw [MovesExactly, moveTrailing_eq]
  decide +kernel

/-- The declaration of the second line begins inside the first one, which is moved. -/
example : ¬ MovesExactly
    "const async = 1\nexport default\nasync\nconst foo = 1\nexport default foo\n".toList := by
  rw [MovesExactly, moveTrailing_eq]
  decide +kernel

end CodeMigration.NamedExports
