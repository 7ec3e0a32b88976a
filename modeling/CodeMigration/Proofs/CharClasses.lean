import CodeMigration.Pattern.Lexeme
import Mathlib.Tactic.Common

/-!
# CodeMigration.Proofs.CharClasses

How the classes of characters lie to each other. Each of them is a table of runs; what
holds of all characters of a small class is checked on the list of its code points
(`Unicode.forall_inRuns`).
-/

namespace CodeMigration

namespace Unicode

/-- The code points of the set that the run lengths describe, counted from `k`. -/
def points : List Nat → Nat → List Nat
  | gap :: run :: rest, k => List.range' (k + gap) run ++ points rest (k + gap + run)
  | _, _ => []

theorem mem_points {runs : List Nat} {n : Nat} (h : inRuns runs n = true) (k : Nat) :
    k + n ∈ points runs k := by
  fun_induction inRuns runs n generalizing k with
  | case1 => cases h
  | case2 gap run rest n hgap hrun =>
      refine List.mem_append_left _ (List.mem_range'_1.2 ?_)
      omega
  | case3 gap run rest n hgap hrun ih =>
      refine List.mem_append_right _ ?_
      have := ih h (k + gap + run)
      rwa [show k + gap + run + (n - gap - run) = k + n by omega] at this
  | case4 => cases h

/-- What holds of the listed code points holds of the set. -/
theorem forall_inRuns {runs : List Nat} {P : Nat → Prop} (h : ∀ n ∈ points runs 0, P n) {n : Nat}
    (hn : inRuns runs n = true) : P n := by
  have := h _ (mem_points hn 0)
  rwa [Nat.zero_add] at this

/-- No white space is a word character. -/
theorem isWord_of_isSpace {c : Char} (h : isSpace c = true) : isWord c = false :=
  forall_inRuns (P := fun n => inRuns wordRuns n = false) (by decide +kernel) h

end Unicode

namespace CharSet

theorem contains_single {c x : Char} : (single c).contains x = true ↔ x = c := by
  rw [single, contains, Bool.and_eq_true, decide_eq_true_eq, decide_eq_true_eq]
  exact ⟨fun h => Char.le_antisymm h.2 h.1, fun h => by simp [h]⟩

theorem contains_ofList {cs : List Char} {x : Char} : (ofList cs).contains x = true ↔ x ∈ cs := by
  induction cs with
  | nil => simp [ofList, contains]
  | cons c cs ih =>
      show ((single c).contains x || (ofList cs).contains x) = true ↔ _
      rw [Bool.or_eq_true, ih, contains_single, List.mem_cons]

theorem contains_noneOf {cs : List Char} {x : Char} :
    (noneOf cs).contains x = true ↔ x ∉ cs := by
  rw [noneOf, contains_compl, Bool.not_eq_true', ← Bool.not_eq_true, contains_ofList]

theorem isWord_of_asciiAlpha {c : Char} (h : asciiAlpha.contains c = true) :
    Unicode.isWord c = true := by
  have hword : ∀ n ∈ List.range' 65 26 ++ List.range' 97 26, Unicode.inRuns Unicode.wordRuns n = true := by
    decide +kernel
  refine hword c.toNat ?_
  simp only [asciiAlpha, contains, Bool.or_eq_true, Bool.and_eq_true, decide_eq_true_eq,
    Char.le_def, UInt32.le_iff_toNat_le] at h
  rw [List.mem_append, List.mem_range'_1, List.mem_range'_1]
  rcases h with ⟨hlow, hhigh⟩ | ⟨hlow, hhigh⟩
  · exact .inl ⟨hlow, Nat.lt_succ_of_le hhigh⟩
  · exact .inr ⟨hlow, Nat.lt_succ_of_le hhigh⟩

end CharSet

namespace Lexeme

theorem identifierPart_of_isSpace {c : Char} (h : Unicode.isSpace c = true) :
    identifierPart.contains c = false := by
  rw [identifierPart, CharSet.contains_union, CharSet.contains, Unicode.isWord_of_isSpace h,
    Bool.false_or, ← Bool.not_eq_true, CharSet.contains_single]
  rintro rfl
  exact absurd h (by decide)

theorem identifierPart_of_identifierStart {c : Char} (h : identifierStart.contains c = true) :
    identifierPart.contains c = true := by
  rw [identifierStart, CharSet.contains_union, Bool.or_eq_true, CharSet.contains_ofList] at h
  rw [identifierPart, CharSet.contains_union, Bool.or_eq_true]
  rcases h with h | h
  · exact .inl (CharSet.isWord_of_asciiAlpha h)
  · simp only [List.mem_cons, List.not_mem_nil, or_false] at h
    rcases h with rfl | rfl
    · exact .inl (by decide)
    · exact .inr (by decide)

theorem isSpace_of_identifierPart {c : Char} (h : identifierPart.contains c = true) :
    Unicode.isSpace c = false := by
  rw [← Bool.not_eq_true]
  intro hspace
  rw [identifierPart_of_isSpace hspace] at h
  cases h

theorem isSpace_of_identifierStart {c : Char} (h : identifierStart.contains c = true) :
    Unicode.isSpace c = false :=
  isSpace_of_identifierPart (identifierPart_of_identifierStart h)

end Lexeme

end CodeMigration
