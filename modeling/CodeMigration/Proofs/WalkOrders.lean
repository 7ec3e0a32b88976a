import CodeMigration.Proofs.Selections

/-!
# CodeMigration.Proofs.WalkOrders

A walk finds the files of a directory in whatever order the file system has them. The files that
are chosen do not depend on it (`Selector.choose_any_order`): they are put in the order of their
components, and no two files of a directory have the same ones. That order is not the one of the
written paths: a separator comes before all other characters, so `app/page.ts` stands before
`app-old/page.ts`, though `-` is less than `/`.
-/

namespace CodeMigration

namespace Path

/-- Does the path come strictly before the other one in the order of components? -/
def comesBefore (p q : Path) : Prop := compareComponents p.components q.components = .lt

instance (p q : Path) : Decidable (p.comesBefore q) := inferInstanceAs (Decidable (_ = _))

end Path

namespace Listed

variable {paths : List Path} (h : Listed paths)

include h

theorem filter (keep : Path → Bool) : Listed (paths.filter keep) :=
  ⟨fun path hpath => h.plain path (List.mem_filter.1 hpath).1,
    h.distinct.sublist (List.filter_sublist.map Path.components)⟩

/-- In order, different paths come strictly before one another. -/
theorem pairwise_comesBefore (hsorted : paths.Pairwise (Path.le · · = true)) :
    paths.Pairwise Path.comesBefore := by
  have hne : paths.Pairwise fun p q => p.components ≠ q.components :=
    List.pairwise_map.1 h.distinct
  exact (hsorted.and hne).imp fun hpq => Path.compareComponents_eq_lt hpq.1 hpq.2

/-- Below a root paths come in the order in which they come without it. -/
theorem comesBefore_join {p q : Path} (hp : p ∈ paths) (hq : q ∈ paths) (root : Path) :
    (root.join p).comesBefore (root.join q) ↔ p.comesBefore q := by
  unfold Path.comesBefore
  rw [h.components_join hp, h.components_join hq, Path.compareComponents_append]

end Listed

namespace Selector

/-- Whatever order a walk finds the files of a directory in, the same ones are chosen: those that
are taken, each joined to the root, in strictly increasing order of their components. -/
theorem choose_any_order (selector : Selector) {files walk : List Path} (hfiles : Listed files)
    (hwalk : walk.Perm files) :
    selector.choose walk = selector.choose files ∧
      (∀ path, path ∈ selector.choose walk ↔
        ∃ file ∈ files, selector.accepts file = true ∧ path = selector.root.join file) ∧
      (selector.choose walk).Pairwise Path.comesBefore ∧
      ∀ disk : Disk, walk.Perm (disk.scan selector.root) →
        selector.select disk = selector.choose files := by
  have hany : ∀ {others : List Path}, others.Perm files →
      selector.choose others = selector.choose files := by
    intro others hothers
    have hlisted := (hfiles.perm hothers.symm).filter selector.accepts
    unfold choose
    rw [Path.mergeSort_eq_of_perm (hothers.filter selector.accepts) hlisted.distinct]
  have hsorted := List.mergeSort_perm (files.filter selector.accepts) Path.le
  have htaken : Listed ((files.filter selector.accepts).mergeSort Path.le) :=
    (hfiles.filter selector.accepts).perm hsorted.symm
  rw [hany hwalk]
  refine ⟨rfl, fun path => ?_, ?_, fun disk hdisk => hany (hdisk.symm.trans hwalk)⟩
  · simp only [choose, List.mem_map, hsorted.mem_iff, List.mem_filter, and_assoc, eq_comm]
  · refine List.pairwise_map.2 ?_
    have hbefore := htaken.pairwise_comesBefore (Path.pairwise_mergeSort_le _)
    exact hbefore.imp_of_mem fun hp hq => (htaken.comesBefore_join hp hq selector.root).2

/-- Three files of which two are taken; the walk meets the one that comes last of all first. -/
theorem choose_any_order_three_files :
    let selector : Selector := ⟨"app", ["ts"], []⟩
    let files : List Path := ["src/a.ts", "src/a.md", "src-old/a.ts"]
    let walk : List Path := ["src-old/a.ts", "src/a.md", "src/a.ts"]
    let chosen : List Path := ["app/src/a.ts", "app/src-old/a.ts"]
    Listed files ∧ walk.Perm files ∧ selector.choose walk = chosen := by
  intro selector files walk chosen
  have hfiles : Listed files := ⟨by decide, by decide⟩
  have hwalk : walk.Perm files := by decide
  have htaken : files.filter selector.accepts = ["src/a.ts", "src-old/a.ts"] := by decide +kernel
  have hchosen : selector.choose files = chosen := by
    rw [choose, htaken, List.mergeSort_of_pairwise (by decide)]
    decide
  exact ⟨hfiles, hwalk, (selector.choose_any_order hfiles hwalk).1.trans hchosen⟩

end Selector

end CodeMigration
