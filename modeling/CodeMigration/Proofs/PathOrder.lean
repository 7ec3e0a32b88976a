import CodeMigration.Proofs.PathParts
import Mathlib.Data.List.Nodup
import Mathlib.Data.String.Basic

/-!
# CodeMigration.Proofs.PathOrder

Paths that are made of names, as they are found in a directory tree. Such a path is plain, and its
components are the names (`components_ofNames`); below another path they come behind the
components of that path (`components_join`).

Paths are ordered by their components. The order is total, and two paths that come before each
other have the same components (`components_eq_of_le`). So a list of paths with different
components can be put in order in one way only (`eq_of_perm_of_pairwise`), and it does not matter
in which order they are given (`mergeSort_eq_of_perm`) or if some of them are taken out before or
after (`mergeSort_filter`).
-/

namespace CodeMigration

/-- Can an entry of a directory have the name? -/
def IsEntryName (name : String) : Prop := IsName name ∧ '/' ∉ name.toList

instance (name : String) : Decidable (IsEntryName name) := inferInstanceAs (Decidable (_ ∧ _))

namespace Path

/-! ### Paths made of names -/

theorem pieces_append_separator (front back : List Char) :
    pieces (front ++ '/' :: back) = pieces front ++ pieces back := by
  induction front with
  | nil => simp [pieces]
  | cons c front ih =>
      obtain ⟨first, more, hpieces⟩ := List.exists_cons_of_ne_nil (pieces_ne_nil front)
      rw [List.cons_append, pieces, pieces, ih, hpieces]
      split <;> rfl

theorem pieces_intercalate {names : List (List Char)} (hne : names ≠ [])
    (h : ∀ name ∈ names, '/' ∉ name) : pieces (['/'].intercalate names) = names := by
  induction names with
  | nil => exact absurd rfl hne
  | cons name names ih =>
      obtain ⟨hname, hnames⟩ := List.forall_mem_cons.1 h
      cases names with
      | nil => simpa [List.intercalate] using pieces_of_not_mem hname
      | cons next names =>
          have hsplit : ['/'].intercalate (name :: next :: names) =
              name ++ '/' :: ['/'].intercalate (next :: names) := by
            simp [List.intercalate]
          rw [hsplit, pieces_append_separator, pieces_of_not_mem hname, ih (by simp) hnames]
          rfl

section

variable {names : List String} (hne : names ≠ []) (hnames : ∀ name ∈ names, IsEntryName name)

include hne hnames

theorem parts_ofNames : Disk.parts (ofNames names) = names := by
  have hpieces : pieces (ofNames names).text.toList = names.map String.toList := by
    have hchars : (ofNames names).text.toList = ['/'].intercalate (names.map String.toList) :=
      String.toList_intercalate
    rw [hchars]
    refine pieces_intercalate (by simpa using hne) ?_
    intro name hname
    obtain ⟨entry, hentry, rfl⟩ := List.mem_map.1 hname
    exact (hnames entry hentry).2
  rw [Disk.parts, hpieces, List.map_map]
  simp [Function.comp_def]

theorem isPlain_ofNames : (ofNames names).IsPlain := by
  intro part hpart
  rw [parts_ofNames hne hnames] at hpart
  exact (hnames part hpart).1

theorem components_ofNames : (ofNames names).components = names.map .name := by
  rw [(isPlain_ofNames hne hnames).components_eq, parts_ofNames hne hnames]

end

/-! ### Paths below others -/

/-- How the text of a plain path below another one is made up. -/
theorem join_cases {path : Path} (h : path.IsPlain) (root : Path) :
    (root.text = "" ∧ root.join path = path) ∨
    (∃ front, root.text.toList = front ++ ['/'] ∧
      (root.join path).text.toList = front ++ '/' :: path.text.toList) ∨
    (root.text ≠ "" ∧ (root.join path).text.toList =
      root.text.toList ++ '/' :: path.text.toList) := by
  unfold join
  rw [h.isAbsolute, if_neg Bool.false_ne_true]
  by_cases hempty : root.text = ""
  · refine .inl ⟨hempty, ?_⟩
    simp [hempty]
  · by_cases hend : root.text.toList.getLast? = some '/'
    · obtain ⟨front, hfront⟩ := List.getLast?_eq_some_iff.1 hend
      refine .inr (.inl ⟨front, hfront, ?_⟩)
      simp [hfront]
    · refine .inr (.inr ⟨hempty, ?_⟩)
      simp [hempty, hend]

/-- The parts of a plain path come last in a path below another one. -/
theorem exists_parts_join {path : Path} (h : path.IsPlain) (root : Path) :
    ∃ front, Disk.parts (root.join path) = front ++ Disk.parts path := by
  unfold Disk.parts
  rcases join_cases h root with ⟨-, hjoin⟩ | ⟨front, -, hjoin⟩ | ⟨-, hjoin⟩
  · exact ⟨[], by rw [hjoin]; rfl⟩
  · exact ⟨(pieces front).map String.ofList,
      by rw [hjoin, pieces_append_separator, List.map_append]⟩
  · exact ⟨(pieces root.text.toList).map String.ofList,
      by rw [hjoin, pieces_append_separator, List.map_append]⟩

/-- What stands behind a separator adds its components to those before it. -/
theorem components_of_separator {path root : Path} {front back : List Char}
    (hpath : path.text.toList = front ++ '/' :: back) (hroot : root.text.toList = front ++ ['/']) :
    path.components = root.components ++ (pieces back).filterMap component? := by
  have habsolute : path.isAbsolute = root.isAbsolute := by
    rw [isAbsolute, isAbsolute, hpath, hroot]
    cases front <;> rfl
  unfold components
  rw [habsolute, hpath, hroot, pieces_append_separator, pieces_append_separator]
  simp [List.head?_append_of_ne_nil _ (pieces_ne_nil front), pieces, component?]

/-- A separator at the end does not count, except that it makes a path of nothing absolute. -/
theorem components_of_last_separator {path root : Path} (hroot : root.text ≠ "")
    (hpath : path.text.toList = root.text.toList ++ ['/']) : path.components = root.components := by
  have habsolute : path.isAbsolute = root.isAbsolute := by
    rw [isAbsolute, isAbsolute, hpath]
    cases hchars : root.text.toList with
    | nil => exact absurd (String.toList_inj.1 hchars) hroot
    | cons c rest => rfl
  unfold components
  rw [habsolute, hpath, pieces_append_separator]
  simp [List.head?_append_of_ne_nil _ (pieces_ne_nil _), pieces, component?]

theorem IsPlain.components_eq_filterMap {path : Path} (h : path.IsPlain) :
    path.components = (pieces path.text.toList).filterMap component? := by
  have hfirst : (pieces path.text.toList).head? ≠ some ['.'] := by
    intro hhead
    exact (h "." (List.mem_map_of_mem (List.mem_of_mem_head? hhead))).2.1 rfl
  simp [components, h.isAbsolute, hfirst]

theorem components_join {path : Path} (h : path.IsPlain) (root : Path) :
    (root.join path).components = root.components ++ path.components := by
  rw [h.components_eq_filterMap]
  rcases join_cases h root with ⟨hroot, hjoin⟩ | ⟨front, hroot, hjoin⟩ | ⟨hroot, hjoin⟩
  · have hnone : root.components = [] := by
      simp [components, isAbsolute, hroot, pieces, component?]
    rw [hjoin, hnone, h.components_eq_filterMap]
    rfl
  · exact components_of_separator hjoin hroot
  · have hend : (root.withSuffix "/").text.toList = root.text.toList ++ ['/'] := by
      simp [withSuffix]
    rw [components_of_separator hjoin hend, components_of_last_separator hroot hend]

end Path

/-! ### The order of paths -/

namespace Component

open Std

/-- The order of components goes by their kind first and by the name then. -/
theorem compare_eq_compareLex :
    compare = compareLex (compareOn rank) (compareOn fun c => c.name?.getD "") := by
  funext a b
  cases a <;> cases b <;> rfl

instance : TransCmp compare := by
  rw [compare_eq_compareLex]
  infer_instance

instance : LawfulEqCmp compare where
  eq_of_compare {a b} h := by
    cases a with
    | name s =>
        cases b with
        | name t =>
            have hnames : Ord.compare s t = .eq := h
            rw [LawfulEqOrd.eq_of_compare hnames]
        | _ => cases h
    | _ => cases b <;> first | rfl | cases h

end Component

namespace Path

open Std

theorem compareComponents_eq_compareLex (as bs : List Component) :
    compareComponents as bs = List.compareLex Component.compare as bs := by
  induction as generalizing bs with
  | nil => cases bs <;> rfl
  | cons a as ih =>
      cases bs with
      | nil => rfl
      | cons b bs =>
          rw [compareComponents, List.compareLex, ih]
          cases a.compare b <;> rfl

theorem eq_of_compareComponents {as bs : List Component} (h : compareComponents as bs = .eq) :
    as = bs := by
  induction as generalizing bs with
  | nil =>
      cases bs with
      | nil => rfl
      | cons b bs => cases h
  | cons a as ih =>
      cases bs with
      | nil => cases h
      | cons b bs =>
          rw [compareComponents, Ordering.then_eq_eq] at h
          rw [LawfulEqCmp.eq_of_compare h.1, ih h.2]

theorem le_trans {p q r : Path} (hpq : p.le q = true) (hqr : q.le r = true) : p.le r = true := by
  unfold le at *
  rw [compareComponents_eq_compareLex] at *
  exact TransCmp.isLE_trans hpq hqr

theorem le_total (p q : Path) : (p.le q || q.le p) = true := by
  have hswap : List.compareLex Component.compare q.components p.components =
      (List.compareLex Component.compare p.components q.components).swap := OrientedCmp.eq_swap
  unfold le
  rw [compareComponents_eq_compareLex, compareComponents_eq_compareLex, hswap]
  cases List.compareLex Component.compare p.components q.components <;> rfl

/-- Paths that come before each other have the same components. -/
theorem components_eq_of_le {p q : Path} (hpq : p.le q = true) (hqp : q.le p = true) :
    p.components = q.components := by
  unfold le at hpq hqp
  refine eq_of_compareComponents ?_
  rw [compareComponents_eq_compareLex] at *
  exact OrientedCmp.isLE_antisymm hpq hqp

theorem compareComponents_append (front as bs : List Component) :
    compareComponents (front ++ as) (front ++ bs) = compareComponents as bs := by
  induction front with
  | nil => rfl
  | cons c front ih =>
      have hsame : c.compare c = .eq := ReflCmp.compare_self
      rw [List.cons_append, List.cons_append, compareComponents, hsame, ih]
      rfl

/-- A path comes strictly before another one that does not have its components. -/
theorem compareComponents_eq_lt {p q : Path} (hle : p.le q = true)
    (hne : p.components ≠ q.components) :
    compareComponents p.components q.components = .lt := by
  unfold le at hle
  cases hcmp : compareComponents p.components q.components with
  | lt => rfl
  | eq => exact absurd (eq_of_compareComponents hcmp) hne
  | gt =>
      rw [hcmp] at hle
      cases hle

theorem pairwise_mergeSort_le : ∀ paths : List Path,
    (paths.mergeSort le).Pairwise (le · · = true) :=
  List.pairwise_mergeSort (fun _ _ _ => le_trans) le_total

/-- Paths that do not share their components can be put in order in one way only. -/
theorem eq_of_perm_of_pairwise {paths others : List Path} (hperm : paths.Perm others)
    (hdistinct : (paths.map components).Nodup) (hpaths : paths.Pairwise (le · · = true))
    (hothers : others.Pairwise (le · · = true)) : paths = others := by
  refine hperm.eq_of_pairwise ?_ hpaths hothers
  intro p q hp hq hpq hqp
  exact List.inj_on_of_nodup_map hdistinct hp (hperm.mem_iff.2 hq) (components_eq_of_le hpq hqp)

/-- The order in which paths are given does not matter for the list that is put in order. -/
theorem mergeSort_eq_of_perm {paths others : List Path} (hperm : paths.Perm others)
    (hdistinct : (paths.map components).Nodup) : paths.mergeSort le = others.mergeSort le := by
  have hsorted := List.mergeSort_perm paths le
  refine eq_of_perm_of_pairwise ((hsorted.trans hperm).trans (List.mergeSort_perm others le).symm)
    ?_ (pairwise_mergeSort_le paths) (pairwise_mergeSort_le others)
  exact (hsorted.map components).nodup_iff.2 hdistinct

/-- Paths that do not share their components can be taken out of a list before or after the
list is put in order. -/
theorem mergeSort_filter {paths : List Path} (keep : Path → Bool)
    (h : (paths.map components).Nodup) :
    (paths.filter keep).mergeSort le = (paths.mergeSort le).filter keep := by
  have hperm := List.mergeSort_perm (paths.filter keep) le
  refine eq_of_perm_of_pairwise (hperm.trans ((List.mergeSort_perm paths le).symm.filter keep)) ?_
    (pairwise_mergeSort_le _) ((pairwise_mergeSort_le paths).filter keep)
  exact (hperm.map components).nodup_iff.2 (h.sublist (List.filter_sublist.map components))

end Path

end CodeMigration
