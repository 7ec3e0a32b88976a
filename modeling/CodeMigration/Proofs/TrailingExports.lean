import CodeMigration.Proofs.DefaultExports
import Mathlib.Algebra.GroupWithZero.Nat

/-!
# CodeMigration.Proofs.TrailingExports

The rule that moves default exports to the declarations of their names. Each line that
it moves is taken away whole and gives a word to a declaration elsewhere. The lines lie
apart, so all of them do go (`Fitting.length_applyEdits`), and as a line is longer than
the word that is put in, the text gets shorter whenever a line is moved. That is why the
rule fires where it finds a line to move (`fires_trailingRule_iff`), although some words
that it puts in may be lost.
-/

namespace CodeMigration

/-! ### Patterns without groups -/

namespace Pattern

/-- Does the pattern record a group? -/
def hasGroup : Pattern → Bool
  | empty | word _ | one _ | look _ | run _ _ _ => false
  | group _ _ => true
  | seq p q | alt _ p q => p.hasGroup || q.hasGroup
  | star _ _ p | rounds _ _ p | upTo _ _ p | region p => p.hasGroup

/-- A pattern without groups records nothing. -/
theorem Takes.eq_nil_of_hasGroup {p : Pattern} {b w a : Text} {k : Captures} (h : p.Takes b w a k)
    (hp : p.hasGroup = false) : k = [] := by
  induction h with
  | empty | word | one _ | look _ | run _ | starNil => rfl
  | seq _ _ ihp ihq =>
      obtain ⟨hp, hq⟩ := Bool.or_eq_false_iff.1 hp
      rw [ihp hp, ihq hq, List.append_nil]
  | altLeft _ ih => exact ih (Bool.or_eq_false_iff.1 hp).1
  | altRight _ ih => exact ih (Bool.or_eq_false_iff.1 hp).2
  | group _ => cases hp
  | starCons _ _ _ ihp ihstar => rw [ihp hp, ihstar hp, List.append_nil]

end Pattern

/-! ### Matches lie apart -/

theorem Pattern.Scans.pairwise {p : Pattern} {b a : Text} {ms : List Match}
    (h : Scans p b a ms) : ms.Pairwise fun m m' => m.stop.offset ≤ m'.start.offset := by
  induction h with
  | done => exact .nil
  | skip _ _ ih => exact ih
  | found _ _ _ hs ih => exact List.pairwise_cons.2 ⟨fun m hm => hs.le_start m hm, ih⟩

namespace NamedExports

open Pattern

/-! ### Carrying out edits -/

/-- The edits that take something away lie apart from the others before them and inside
the text, which begins at the offset. -/
structure Fitting (offset : Nat) (text : Text) (edits : List Edit) : Prop where
  /-- No earlier edit reaches into one that takes something away. -/
  apart : edits.Pairwise fun d e => 0 < e.removed → d.offset + d.removed ≤ e.offset
  /-- What is taken away is there. -/
  inside : ∀ e ∈ edits, 0 < e.removed →
    offset ≤ e.offset ∧ e.offset + e.removed ≤ offset + text.length

/-- How many characters the edits take away. -/
def removedBy (edits : List Edit) : Nat := (edits.map (·.removed)).sum

/-- How many characters the edits put in. -/
def insertedBy (edits : List Edit) : Nat := (edits.map (·.inserted.length)).sum

theorem removedBy_sortEdits (edits : List Edit) : removedBy (sortEdits edits) = removedBy edits :=
  ((List.mergeSort_perm edits _).map _).sum_nat

theorem insertedBy_sortEdits (edits : List Edit) :
    insertedBy (sortEdits edits) = insertedBy edits :=
  ((List.mergeSort_perm edits _).map _).sum_nat

theorem Fitting.tail {offset : Nat} {text : Text} {e : Edit} {edits : List Edit}
    (h : Fitting offset text (e :: edits)) : Fitting offset text edits :=
  ⟨(List.pairwise_cons.1 h.apart).2, fun d hd => h.inside d (List.mem_cons_of_mem e hd)⟩

theorem Fitting.drop {offset : Nat} {text : Text} {e : Edit} {edits : List Edit}
    (h : Fitting offset text (e :: edits)) (he : offset ≤ e.offset) :
    Fitting (e.offset + e.removed) (text.drop (e.offset - offset + e.removed)) edits := by
  obtain ⟨hapart, hrest⟩ := List.pairwise_cons.1 h.apart
  refine ⟨hrest, fun d hd hpos => ⟨hapart d hd hpos, ?_⟩⟩
  have hbefore := hapart d hd hpos
  have hinside := (h.inside d (List.mem_cons_of_mem e hd) hpos).2
  rw [List.length_drop]
  omega

/-- All that is to be taken away is taken away; what is to be put in may be lost. -/
theorem Fitting.length_applyEdits {edits : List Edit} {offset : Nat} {text : Text}
    (h : Fitting offset text edits) :
    (applyEdits offset text edits).length + removedBy edits ≤ text.length + insertedBy edits := by
  induction edits generalizing offset text with
  | nil => simp [applyEdits, removedBy, insertedBy]
  | cons e edits ih =>
      have hinside := h.inside e List.mem_cons_self
      rw [applyEdits]
      simp only [removedBy, insertedBy, List.map_cons, List.sum_cons] at ih ⊢
      split
      · next hskip =>
        have := ih h.tail
        omega
      · next hskip =>
        have := ih (h.drop (Nat.le_of_not_lt hskip))
        simp only [List.length_append, List.length_take, List.length_drop] at this ⊢
        omega

theorem pairwise_sortEdits (edits : List Edit) :
    (sortEdits edits).Pairwise fun d e => d.offset ≤ e.offset := by
  refine (List.pairwise_mergeSort ?_ ?_ edits).imp of_decide_eq_true
  · intro c d e hcd hde
    exact decide_eq_true (Nat.le_trans (of_decide_eq_true hcd) (of_decide_eq_true hde))
  · intro d e
    simpa using Nat.le_total d.offset e.offset

/-- Sorting the edits puts them apart if those that take something away are disjoint. -/
theorem fitting_sortEdits {edits : List Edit} {text : Text}
    (hdisjoint : edits.Pairwise fun d e => 0 < d.removed → 0 < e.removed →
      d.offset + d.removed ≤ e.offset ∨ e.offset + e.removed ≤ d.offset)
    (hinside : ∀ e ∈ edits, 0 < e.removed → e.offset + e.removed ≤ text.length) :
    Fitting 0 text (sortEdits edits) := by
  have hperm : (sortEdits edits).Perm edits := List.mergeSort_perm _ _
  have hdisjoint' := (hperm.pairwise_iff (R := fun d e : Edit => 0 < d.removed → 0 < e.removed →
    d.offset + d.removed ≤ e.offset ∨ e.offset + e.removed ≤ d.offset)
    fun h he hd => (h hd he).symm).2 hdisjoint
  refine ⟨((pairwise_sortEdits edits).and hdisjoint').imp ?_, fun e he hpos => ?_⟩
  · rintro d e ⟨hle, hd⟩ he
    omega
  · have := hinside e (hperm.mem_iff.1 he) hpos
    omega

/-! ### Lines that are moved -/

/-- No part of what ends the line has a group. -/
theorem takes_lineEnd_free {b w a : Text} {k : Captures}
    (h : TakesAll [Lexeme.lineBlanks, .optional (.literal ";"), Lexeme.lineBlanks,
      .alt none (.seq (.optional (.literal "\r")) (.literal "\n")) (.look .lineEnd)] b w a k) :
    k = [] :=
  (takes_seqs_iff.2 h).eq_nil_of_hasGroup (by decide)

/-- What a line takes that exports a name as the default. -/
theorem takes_trailingDefault {b w r : Text} {k : Captures} (h : trailingDefault.Takes b w r k) :
    ∃ s t n e, w = "export".toList ++ s ++ "default".toList ++ t ++ n ++ e ∧ Spaces1 s ∧
      Spaces1 t ∧ Lexeme.Identifier n ∧ Anchor.lineStart.holds (.between b (w ++ r)) = true ∧
      (Match.taken b w r k).group exportGroup = n := by
  simp only [trailingDefault, exportDefault, takes_seqs_iff, List.cons_append, List.nil_append,
    Lexeme.lineStart, takesAll_look_cons, takesAll_literal_cons, Lexeme.takesAll_blanks1_cons,
    takesAll_group_cons] at h
  obtain ⟨hline, _, rfl, s, _, rfl, hs, _, rfl, t, _, rfl, ht, n, e, l, _, rfl, hn, hend, rfl⟩ := h
  obtain rfl := takes_lineEnd_free hend
  obtain ⟨hname, rfl⟩ := Lexeme.takes_identifier_iff.1 hn
  exact ⟨s, t, n, e, by simp, hs, ht, hname, hline, Match.group_taken (by decide)⟩

theorem isPlain_trailingDefault : trailingDefault.isPlain = true := by decide

theorem isSolid_trailingDefault : trailingDefault.isSolid = true := by decide

/-- A line that exports a default is longer than the word that is put in for it. -/
theorem length_of_mem_matchesIn {text : Text} {m : Match}
    (h : m ∈ trailingDefault.matchesIn text) :
    m.start.offset + 16 ≤ m.stop.offset ∧ m.stop.offset ≤ text.length := by
  obtain ⟨b, w, r, k, rfl, htakes, htext⟩ :=
    (scans_matchesIn isPlain_trailingDefault isSolid_trailingDefault text).exists_taken m h
  obtain ⟨s, t, n, e, rfl, hs, ht, ⟨x, v, rfl, -, -⟩, -, -⟩ := takes_trailingDefault htakes
  have hs' := List.length_pos_iff.2 hs.2
  have ht' := List.length_pos_iff.2 ht.2
  have hlength := congrArg List.length htext
  simp at hlength ⊢
  omega

/-- The edits for one line: none if no declaration of its name is found. -/
def editsFor (text : Text) (m : Match) : List Edit :=
  match declarationStart? text (m.group exportGroup) with
  | none => []
  | some start =>
    [⟨start.offset, 0, "export ".toList⟩,
     ⟨m.start.offset, m.stop.offset - m.start.offset, []⟩]

theorem trailingEdits_eq (text : Text) :
    trailingEdits text = (trailingDefault.matchesIn text).flatMap (editsFor text) := rfl

theorem editsFor_eq_nil_iff {text : Text} {m : Match} :
    editsFor text m = [] ↔ declarationStart? text (m.group exportGroup) = none := by
  unfold editsFor
  cases declarationStart? text (m.group exportGroup) <;> simp

theorem eq_of_mem_editsFor {text : Text} {m : Match} {e : Edit} (h : e ∈ editsFor text m)
    (hpos : 0 < e.removed) : e = ⟨m.start.offset, m.stop.offset - m.start.offset, []⟩ := by
  unfold editsFor at h
  split at h
  · cases h
  · rcases List.mem_cons.1 h with rfl | h
    · cases hpos
    · exact List.mem_singleton.1 h

/-- The text has a line that the rule moves. -/
theorem trailingEdits_ne_nil_iff {text : Text} :
    trailingEdits text ≠ [] ↔ ∃ m ∈ trailingDefault.matchesIn text,
      (declarationStart? text (m.group exportGroup)).isSome = true := by
  rw [trailingEdits_eq, ne_eq, List.flatMap_eq_nil_iff]
  simp only [editsFor_eq_nil_iff, not_forall, ← Option.not_isSome_iff_eq_none, not_not, exists_prop]

theorem fitting_trailingEdits (text : Text) : Fitting 0 text (sortEdits (trailingEdits text)) := by
  rw [trailingEdits_eq]
  refine fitting_sortEdits (List.pairwise_flatMap.2 ⟨fun m hm => ?_, ?_⟩) fun e he hpos => ?_
  · unfold editsFor
    split <;> simp
  · have hpairwise := (scans_matchesIn isPlain_trailingDefault isSolid_trailingDefault text).pairwise
    refine hpairwise.imp_of_mem fun {m m'} hm _ hmm' d hd e he hdpos hepos => .inl ?_
    obtain rfl := eq_of_mem_editsFor hd hdpos
    obtain rfl := eq_of_mem_editsFor he hepos
    have := length_of_mem_matchesIn hm
    show m.start.offset + (m.stop.offset - m.start.offset) ≤ m'.start.offset
    omega
  · obtain ⟨m, hm, he⟩ := List.mem_flatMap.1 he
    obtain rfl := eq_of_mem_editsFor he hpos
    have := length_of_mem_matchesIn hm
    show m.start.offset + (m.stop.offset - m.start.offset) ≤ text.length
    omega

theorem insertedBy_editsFor (text : Text) {m : Match} (h : m.start.offset + 16 ≤ m.stop.offset) :
    insertedBy (editsFor text m) + (editsFor text m).length ≤ removedBy (editsFor text m) := by
  unfold editsFor
  split
  · simp [insertedBy, removedBy]
  · simp [insertedBy, removedBy]
    omega

theorem insertedBy_flatMap (text : Text) {ms : List Match}
    (h : ∀ m ∈ ms, m.start.offset + 16 ≤ m.stop.offset) :
    insertedBy (ms.flatMap (editsFor text)) + (ms.flatMap (editsFor text)).length ≤
      removedBy (ms.flatMap (editsFor text)) := by
  induction ms with
  | nil => simp [insertedBy, removedBy]
  | cons m ms ih =>
      have hm := insertedBy_editsFor text (h m List.mem_cons_self)
      have hms := ih fun m' hm' => h m' (List.mem_cons_of_mem m hm')
      simp only [List.flatMap_cons, insertedBy, removedBy, List.map_append, List.sum_append,
        List.length_append] at hm hms ⊢
      omega

/-- Moving lines makes the text shorter. -/
theorem length_moveTrailing (text : Text) :
    (moveTrailing text).length + (trailingEdits text).length ≤ text.length := by
  have hlength := (fitting_trailingEdits text).length_applyEdits
  rw [removedBy_sortEdits, insertedBy_sortEdits] at hlength
  have hmore := insertedBy_flatMap text fun m (hm : m ∈ trailingDefault.matchesIn text) =>
    (length_of_mem_matchesIn hm).1
  rw [← trailingEdits_eq] at hmore
  unfold moveTrailing
  omega

theorem moveTrailing_eq_self_iff {text : Text} :
    moveTrailing text = text ↔ trailingEdits text = [] := by
  constructor
  · intro h
    have hlength := length_moveTrailing text
    rw [h] at hlength
    exact List.eq_nil_of_length_eq_zero (by omega)
  · intro h
    rw [moveTrailing, h, sortEdits, List.mergeSort_nil]
    rfl

/-- The rule fires where it finds a line to move, as long as the text has the words with
a single space between them. -/
theorem fires_trailingRule_iff {text : Text} :
    trailingRule.fires text = true ↔
      Text.occurs "export default".toList text = true ∧ trailingEdits text ≠ [] := by
  rw [Rule.fires_iff]
  exact and_congr_right fun _ => not_congr moveTrailing_eq_self_iff

end NamedExports

end CodeMigration
