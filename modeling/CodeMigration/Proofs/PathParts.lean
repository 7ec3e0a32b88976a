import CodeMigration.Disk
import Mathlib.Data.List.Basic

/-!
# CodeMigration.Proofs.PathParts

The parts of a path between its separators. They make up the path, so different paths have
different parts (`parts_injective`), and a suffix without a separator goes to the last of
them (`exists_parts_withSuffix`). A path is *plain* if all its parts are names: such a path
is relative, and its parts are its components.
-/

namespace CodeMigration.Path

/-! ### Pieces -/

theorem pieces_of_not_mem {chars : List Char} (h : '/' ∉ chars) : pieces chars = [chars] := by
  induction chars with
  | nil => rfl
  | cons c rest ih =>
      have hc : c ≠ '/' := fun heq => h (heq ▸ List.mem_cons_self)
      rw [pieces, ih fun hmem => h (List.mem_cons_of_mem c hmem)]
      simp [hc]

theorem pieces_ne_nil (chars : List Char) : pieces chars ≠ [] := by
  cases chars with
  | nil => exact List.cons_ne_nil _ _
  | cons c rest =>
      rw [pieces]
      split
      · exact List.cons_ne_nil _ _
      · split <;> exact List.cons_ne_nil _ _

/-- Where two texts are joined, the last piece of the one is joined with the first of the
other. -/
theorem exists_pieces_join (chars suffix : List Char) :
    ∃ front last first more, pieces chars = front ++ [last] ∧ pieces suffix = first :: more ∧
      pieces (chars ++ suffix) = front ++ (last ++ first) :: more := by
  induction chars with
  | nil =>
      obtain ⟨first, more, hsuffix⟩ := List.exists_cons_of_ne_nil (pieces_ne_nil suffix)
      exact ⟨[], [], first, more, rfl, hsuffix, hsuffix⟩
  | cons c rest ih =>
      obtain ⟨front, last, first, more, hrest, hsuffix, hlonger⟩ := ih
      rw [List.cons_append]
      by_cases hc : c = '/'
      · exact ⟨[] :: front, last, first, more, by simp [pieces, hc, hrest], hsuffix,
          by simp [pieces, hc, hlonger]⟩
      · -- The character goes to the first piece, which may be the last one too.
        cases front with
        | nil =>
            exact ⟨[], c :: last, first, more, by simp [pieces, hc, hrest], hsuffix,
              by simp [pieces, hc, hlonger]⟩
        | cons piece front =>
            exact ⟨(c :: piece) :: front, last, first, more, by simp [pieces, hc, hrest], hsuffix,
              by simp [pieces, hc, hlonger]⟩

theorem exists_pieces_append (chars suffix : List Char) (h : '/' ∉ suffix) :
    ∃ front last, pieces chars = front ++ [last] ∧
      pieces (chars ++ suffix) = front ++ [last ++ suffix] := by
  obtain ⟨front, last, first, more, hchars, hsuffix, hlonger⟩ := exists_pieces_join chars suffix
  rw [pieces_of_not_mem h] at hsuffix
  obtain ⟨rfl, rfl⟩ := List.cons.inj hsuffix
  exact ⟨front, last, hchars, hlonger⟩

theorem intercalate_pieces (chars : List Char) : ['/'].intercalate (pieces chars) = chars := by
  induction chars with
  | nil => rfl
  | cons c rest ih =>
      obtain ⟨front, last, hrest, -⟩ := exists_pieces_append rest [] (by simp)
      cases front with
      | nil => by_cases hc : c = '/' <;> simp_all [pieces, List.intercalate]
      | cons piece front =>
          obtain ⟨next, more, hback⟩ := List.exists_cons_of_ne_nil (l := front ++ [last]) (by simp)
          rw [List.cons_append, hback] at hrest
          by_cases hc : c = '/' <;> simp_all [pieces, List.intercalate]

end CodeMigration.Path

namespace CodeMigration.Disk

/-! ### Parts -/

theorem parts_injective : Function.Injective parts := by
  intro p q h
  have hinj : Function.Injective String.ofList := fun _ _ => String.ofList_inj.1
  have hpieces := List.map_injective_iff.2 hinj h
  have hchars : p.text.toList = q.text.toList := by
    rw [← Path.intercalate_pieces p.text.toList, hpieces, Path.intercalate_pieces]
  cases p
  cases q
  exact congrArg Path.mk (String.toList_inj.1 hchars)

/-- A suffix without a separator goes to the last part. -/
theorem exists_parts_withSuffix (path : Path) (suffix : String) (h : '/' ∉ suffix.toList) :
    ∃ front last, parts path = front ++ [last] ∧
      parts (path.withSuffix suffix) = front ++ [last ++ suffix] := by
  obtain ⟨front, last, hparts, hlonger⟩ := Path.exists_pieces_append path.text.toList _ h
  refine ⟨front.map String.ofList, String.ofList last, by simp [parts, hparts], ?_⟩
  rw [parts, Path.withSuffix, String.toList_append, hlonger]
  simp [String.ofList_append]

theorem parts_ne_nil (path : Path) : parts path ≠ [] := by
  obtain ⟨front, last, hparts, -⟩ := exists_parts_withSuffix path "" (by simp)
  simp [hparts]

end CodeMigration.Disk

namespace CodeMigration

theorem Path.withSuffix_inj {path other : Path} {suffix : String} :
    path.withSuffix suffix = other.withSuffix suffix ↔ path = other := by
  constructor
  · intro h
    have hchars := congrArg (fun p : Path => p.text.toList) h
    simp only [Path.withSuffix, String.toList_append] at hchars
    cases path
    cases other
    exact congrArg Path.mk (String.toList_inj.1 (List.append_cancel_right hchars))
  · intro h
    rw [h]

/-! ### Plain paths -/

/-- Is the part of a path neither empty nor made of dots that lead elsewhere? -/
def IsName (part : String) : Prop := part ≠ "" ∧ part ≠ "." ∧ part ≠ ".."

instance (part : String) : Decidable (IsName part) := inferInstanceAs (Decidable (_ ∧ _))

/-- The path is relative, and every part of it is a name. -/
def Path.IsPlain (path : Path) : Prop := ∀ part ∈ Disk.parts path, IsName part

instance (path : Path) : Decidable path.IsPlain := inferInstanceAs (Decidable (∀ _ ∈ _, _))

/-- A suffix that makes another name of a name. -/
def IsNameSuffix (suffix : String) : Prop := suffix ≠ "" ∧ '/' ∉ suffix.toList

instance (suffix : String) : Decidable (IsNameSuffix suffix) := inferInstanceAs (Decidable (_ ∧ _))

theorem Path.withSuffix_ne (path : Path) {suffix : String} (h : IsNameSuffix suffix) :
    path.withSuffix suffix ≠ path := by
  intro heq
  have hchars := congrArg (fun p : Path => p.text.toList) heq
  simp only [Path.withSuffix, String.toList_append, List.append_right_eq_self] at hchars
  exact h.1 (String.toList_inj.1 hchars)

theorem IsName.append {part suffix : String} (h : IsName part) (hsuffix : IsNameSuffix suffix) :
    IsName (part ++ suffix) := by
  -- Both parts have a character, so of the dots only two single ones are left.
  have hchars : (part ++ suffix).toList = part.toList ++ suffix.toList := String.toList_append
  cases hpart : part.toList with
  | nil => exact absurd (String.toList_inj.1 hpart) h.1
  | cons c cs =>
      cases hback : suffix.toList with
      | nil => exact absurd (String.toList_inj.1 hback) hsuffix.1
      | cons d ds =>
          rw [hpart, hback] at hchars
          refine ⟨?_, ?_, ?_⟩
          · intro heq
            simp [heq] at hchars
          · intro heq
            simp [heq] at hchars
          · intro heq
            rw [heq] at hchars
            cases cs with
            | nil =>
                have hc : c = '.' := (List.cons.inj hchars).1.symm
                exact h.2.1 (String.toList_inj.1 (hpart.trans (by rw [hc]; rfl)))
            | cons e es => simp at hchars

namespace Path.IsPlain

variable {path : Path}

theorem isAbsolute (h : path.IsPlain) : path.isAbsolute = false := by
  unfold IsPlain Disk.parts at h
  unfold Path.isAbsolute
  cases htext : path.text.toList with
  | nil => rfl
  | cons c rest =>
      rw [htext] at h
      by_cases hc : c = '/'
      · exact absurd rfl (h "" (by simp [pieces, hc])).1
      · simp [hc]

theorem withSuffix (h : path.IsPlain) {suffix : String} (hsuffix : IsNameSuffix suffix) :
    (path.withSuffix suffix).IsPlain := by
  obtain ⟨front, last, hparts, hlonger⟩ := Disk.exists_parts_withSuffix path suffix hsuffix.2
  intro part hpart
  rw [hlonger] at hpart
  rcases List.mem_append.1 hpart with hmem | hmem
  · exact h part (by simp [hparts, hmem])
  · rw [List.mem_singleton] at hmem
    subst hmem
    exact (h last (by simp [hparts])).append hsuffix

theorem components_eq (h : path.IsPlain) : path.components = (Disk.parts path).map .name := by
  have hpiece : ∀ piece ∈ pieces path.text.toList,
      component? piece = some (.name (String.ofList piece)) := by
    intro piece hmem
    obtain ⟨hempty, hdot, hdots⟩ := h (String.ofList piece) (List.mem_map_of_mem hmem)
    unfold component?
    split
    · exact absurd rfl hempty
    · exact absurd rfl hdot
    · exact absurd rfl hdots
    · rfl
  have hfirst : (pieces path.text.toList).head? ≠ some ['.'] := by
    intro hhead
    exact (h "." (List.mem_map_of_mem (List.mem_of_mem_head? hhead))).2.1 rfl
  have hnames : (pieces path.text.toList).filterMap component? =
      (pieces path.text.toList).map fun piece => .name (String.ofList piece) := by
    rw [← List.filterMap_eq_map]
    exact List.filterMap_congr hpiece
  rw [components, h.isAbsolute, hnames]
  simp [hfirst, Disk.parts]

end Path.IsPlain

end CodeMigration
