import CodeMigration.Proofs.FailedCommands
import CodeMigration.Proofs.Trees

/-!
# CodeMigration.Proofs.Selections

Which files a choice lists. In a tree it lists each of them once (`Selector.listed_chosen`), and
below a root they are still different (`Listed.distinct_join`). Globs of a migration come behind
those of the settings (`Selector.ofSettings_eq_ok`); they take files out of a choice and leave the
others in their order (`Selector.chosen_excluding`).
-/

namespace CodeMigration

/-! ### Lists of different paths -/

/-- The paths are plain, and no two of them have the same components. -/
structure Listed (paths : List Path) : Prop where
  plain : ∀ path ∈ paths, path.IsPlain
  distinct : (paths.map Path.components).Nodup

namespace Listed

variable {paths : List Path} (h : Listed paths)

include h

theorem perm {others : List Path} (hperm : paths.Perm others) : Listed others :=
  ⟨fun path hpath => h.plain path (hperm.mem_iff.2 hpath),
    (hperm.map Path.components).nodup_iff.1 h.distinct⟩

/-- Paths with the same components are the same. -/
theorem eq_of_components {path other : Path} (hpath : path ∈ paths) (hother : other ∈ paths)
    (heq : path.components = other.components) : path = other :=
  List.inj_on_of_nodup_map h.distinct hpath hother heq

theorem components_join {path : Path} (hpath : path ∈ paths) (root : Path) :
    (root.join path).components = root.components ++ path.components :=
  Path.components_join (h.plain path hpath) root

/-- Below another path they are still different. -/
theorem distinct_join (root : Path) : ((paths.map root.join).map Path.components).Nodup := by
  rw [List.map_map]
  refine List.Nodup.map_on ?_ (List.Nodup.of_map _ h.distinct)
  intro path hpath other hother heq
  simp only [Function.comp_apply, h.components_join hpath, h.components_join hother] at heq
  exact h.eq_of_components hpath hother (List.append_cancel_left heq)

end Listed

/-! ### What a choice lists -/

namespace Selector

variable {disk : Disk}

theorem extension?_of_accepts {selector : Selector} {path : Path}
    (h : selector.accepts path = true) : path.extension?.isSome = true := by
  rw [accepts, Bool.and_eq_true] at h
  cases hext : path.extension? with
  | none => simp [hext] at h
  | some e => rfl

/-- A choice takes each file of a tree once. -/
theorem listed_filter (htree : disk.IsTree) (selector : Selector) (root : Path) :
    Listed ((disk.scan root).filter selector.accepts) := by
  obtain ⟨found, hscan, hdistinct, hnames⟩ := htree.exists_scan_eq root
  rw [hscan, List.filter_map]
  -- A file that is taken has an extension, so its path has a name at least.
  have htaken : ∀ names ∈ found.filter (selector.accepts ∘ Path.ofNames),
      names ≠ [] ∧ ∀ name ∈ names, IsEntryName name := by
    intro names hmem
    obtain ⟨hfound, haccepts⟩ := List.mem_filter.1 hmem
    refine ⟨?_, hnames names hfound⟩
    intro hnil
    rw [hnil] at haccepts
    exact absurd (extension?_of_accepts haccepts) (by decide)
  constructor
  · intro path hpath
    obtain ⟨names, hmem, rfl⟩ := List.mem_map.1 hpath
    obtain ⟨hne, hentry⟩ := htaken names hmem
    exact Path.isPlain_ofNames hne hentry
  · rw [List.map_map]
    refine List.Nodup.map_on ?_ (hdistinct.filter _)
    intro names hmem others hmem' heq
    obtain ⟨hne, hentry⟩ := htaken names hmem
    obtain ⟨hne', hentry'⟩ := htaken others hmem'
    simp only [Function.comp_apply, Path.components_ofNames hne hentry,
      Path.components_ofNames hne' hentry'] at heq
    exact List.map_injective_iff.2 (fun _ _ => Component.name.inj) heq

/-- The files that a choice takes, in order and as paths below the root. -/
def chosen (selector : Selector) (disk : Disk) : List Path :=
  ((disk.scan selector.root).filter selector.accepts).mergeSort Path.le

theorem select_eq (selector : Selector) (disk : Disk) :
    selector.select disk = (selector.chosen disk).map selector.root.join := rfl

theorem listed_chosen (htree : disk.IsTree) (selector : Selector) :
    Listed (selector.chosen disk) :=
  (listed_filter htree selector _).perm (List.mergeSort_perm _ _).symm

theorem accepts_of_mem_chosen {selector : Selector} {path : Path}
    (h : path ∈ selector.chosen disk) : selector.accepts path = true :=
  (List.mem_filter.1 ((List.mergeSort_perm _ _).mem_iff.1 h)).2

/-- The choice with further globs of paths that are left alone. -/
def excluding (selector : Selector) (further : List Glob) : Selector :=
  { selector with excludes := selector.excludes ++ further }

/-- Does one of the globs match the path? -/
def anyMatch (globs : List Glob) (path : Path) : Bool :=
  globs.any fun glob => glob.isMatch path.text

theorem accepts_excluding (selector : Selector) (further : List Glob) (path : Path) :
    (selector.excluding further).accepts path =
      (!anyMatch further path && selector.accepts path) := by
  simp [accepts, excluding, anyMatch, Bool.and_comm, Bool.and_left_comm]

/-- Further globs take files out of a choice and leave the others in their order. -/
theorem chosen_excluding (htree : disk.IsTree) (selector : Selector) (further : List Glob) :
    (selector.excluding further).chosen disk =
      (selector.chosen disk).filter fun path => !anyMatch further path := by
  have hfilter : (disk.scan selector.root).filter (selector.excluding further).accepts =
      ((disk.scan selector.root).filter selector.accepts).filter
        fun path => !anyMatch further path := by
    rw [List.filter_filter]
    exact List.filter_congr fun path _ => accepts_excluding selector further path
  have hlisted := listed_filter htree selector selector.root
  unfold chosen
  rw [← Path.mergeSort_filter _ hlisted.distinct, ← hfilter]
  rfl

/-! ### Choices of settings -/

theorem readGlobs_append {front back : List String} {globs : List Glob}
    (h : readGlobs (front ++ back) = .ok globs) :
    ∃ first further, readGlobs front = .ok first ∧ readGlobs back = .ok further ∧
      globs = first ++ further := by
  induction front generalizing globs with
  | nil => exact ⟨[], globs, rfl, h, rfl⟩
  | cons glob front ih =>
      rw [List.cons_append, readGlobs_cons] at h
      rw [readGlobs_cons]
      cases hglob : Glob.parse? false glob with
      | none =>
          rw [hglob] at h
          cases h
      | some g =>
          rw [hglob] at h
          cases hrest : readGlobs (front ++ back) with
          | error cause =>
              rw [hrest] at h
              cases h
          | ok rest =>
              obtain ⟨first, further, hfirst, hfurther, rfl⟩ := ih hrest
              rw [hrest] at h
              cases h
              exact ⟨g :: first, further, by rw [hfirst]; rfl, hfurther, rfl⟩

/-- The globs of a migration come behind those of the settings. -/
theorem ofSettings_eq_ok {root : Path} {files : FileSettings} {extra : List String}
    {selector : Selector} (h : ofSettings root files extra = .ok selector) :
    ∃ everything further, ofSettings root files [] = .ok everything ∧
      everything.root = root ∧ readGlobs extra = .ok further ∧
      selector = everything.excluding further := by
  unfold ofSettings at h ⊢
  cases hglobs : readGlobs (files.exclude ++ extra) with
  | error cause =>
      rw [hglobs] at h
      cases h
  | ok globs =>
      obtain ⟨first, further, hfirst, hfurther, rfl⟩ := readGlobs_append hglobs
      rw [hglobs] at h
      rw [List.append_nil, hfirst]
      cases h
      exact ⟨_, further, rfl, rfl, hfurther, rfl⟩

end Selector

end CodeMigration
