import CodeMigration.Proofs.FileRuns
import CodeMigration.Proofs.PathOrder
import CodeMigration.Ignore

/-!
# CodeMigration.Proofs.Trees

Disks that are directory trees: no place is given twice, and the names are such as the entries of
directories have. Whatever a run writes and removes, a tree stays a tree
(`Disk.Stable.processAll`, `Disk.stable_isTree`), since the parts of a path are names or lead
nowhere else. A walk in a tree finds each file once (`Disk.IsTree.exists_scan_eq`).
-/

namespace CodeMigration

namespace Disk

/-! ### Directory trees -/

/-- The places of a disk. -/
def places (disk : Disk) : List Place := disk.nodes.map Prod.fst

/-- The disk is a directory tree: no place is given twice, and all names are such as the entries
of directories have. -/
structure IsTree (disk : Disk) : Prop where
  distinct : disk.places.Nodup
  names : ∀ place ∈ disk.places, ∀ name ∈ place, IsEntryName name
  home : ∀ name ∈ disk.home, IsEntryName name

theorem places_put (disk : Disk) (place : Place) (node : Node) :
    (disk.put place node).places =
      if place ∈ disk.places then disk.places else disk.places ++ [place] := by
  unfold places put
  induction disk.nodes with
  | nil => rfl
  | cons entry rest ih =>
      obtain ⟨other, old⟩ := entry
      rw [putNode]
      by_cases hplace : place = other
      · simp [hplace]
      · rw [if_neg hplace, List.map_cons, ih]
        by_cases hmem : place ∈ rest.map Prod.fst
        · simp [hmem]
        · simp [hmem, hplace]

theorem places_erase (disk : Disk) (place : Place) :
    (disk.erase place).places = disk.places.filter (place ≠ ·) := by
  unfold places erase
  induction disk.nodes with
  | nil => rfl
  | cons entry rest ih =>
      obtain ⟨other, old⟩ := entry
      rw [dropNode]
      by_cases hplace : place = other
      · rw [if_pos hplace, ih]
        simp [hplace]
      · rw [if_neg hplace, List.map_cons, ih]
        simp [hplace]

theorem IsTree.put {disk : Disk} (h : disk.IsTree) {place : Place}
    (hplace : ∀ name ∈ place, IsEntryName name) (node : Node) : (disk.put place node).IsTree := by
  refine ⟨?_, ?_, h.home⟩
  · rw [places_put]
    split
    · exact h.distinct
    · next hnew =>
      refine List.nodup_append.2 ⟨h.distinct, List.nodup_singleton place, ?_⟩
      intro other hother added hadded heq
      rw [List.mem_singleton] at hadded
      exact hnew (hadded ▸ heq ▸ hother)
  · intro other hother
    rw [places_put] at hother
    split at hother
    · exact h.names other hother
    · rcases List.mem_append.1 hother with hold | hadded
      · exact h.names other hold
      · rwa [List.mem_singleton.1 hadded]

theorem IsTree.erase {disk : Disk} (h : disk.IsTree) (place : Place) :
    (disk.erase place).IsTree := by
  refine ⟨?_, ?_, h.home⟩
  · rw [places_erase]
    exact h.distinct.filter _
  · intro other hother
    rw [places_erase] at hother
    exact h.names other (List.mem_filter.1 hother).1

/-! ### Walks in a tree -/

theorem not_mem_of_mem_pieces {chars piece : List Char} (h : piece ∈ Path.pieces chars) :
    '/' ∉ piece := by
  induction chars generalizing piece with
  | nil => simp_all [Path.pieces]
  | cons c rest ih =>
      rw [Path.pieces] at h
      split at h
      · rcases List.mem_cons.1 h with rfl | hmem
        · simp
        · exact ih hmem
      · next hc =>
        have hfirst : '/' ≠ c := fun heq => hc (by rw [← heq]; rfl)
        cases hpieces : Path.pieces rest with
        | nil =>
            rw [hpieces] at h
            simp_all
        | cons first more =>
            rw [hpieces] at h ih
            rcases List.mem_cons.1 h with rfl | hmem
            · simp [hfirst, ih List.mem_cons_self]
            · exact ih (List.mem_cons_of_mem first hmem)

theorem separator_not_mem_of_mem_parts {path : Path} {part : String} (h : part ∈ parts path) :
    '/' ∉ part.toList := by
  obtain ⟨piece, hpiece, rfl⟩ := List.mem_map.1 h
  simpa using not_mem_of_mem_pieces hpiece

theorem names_of_step {disk : Disk} {here next : Place} {part : String}
    (hhere : ∀ name ∈ here, IsEntryName name) (hpart : '/' ∉ part.toList)
    (hstep : disk.step here part = .ok next) : ∀ name ∈ next, IsEntryName name := by
  intro name hname
  rw [step_of_directory (directory_of_step hstep)] at hstep
  split at hstep
  · cases hstep
    exact hhere name hname
  · next hdot =>
    split at hstep
    · cases hstep
      exact hhere name ((List.dropLast_sublist here).mem hname)
    · next hdots =>
      split at hstep
      · cases hstep
      · cases hstep
        rcases List.mem_append.1 hname with hmem | hmem
        · exact hhere name hmem
        · rw [List.mem_singleton.1 hmem]
          exact ⟨⟨fun heq => hdot (.inl heq), fun heq => hdot (.inr heq), hdots⟩, hpart⟩

theorem names_of_walk {disk : Disk} {here place : Place} {parts : List String}
    (hhere : ∀ name ∈ here, IsEntryName name) (hparts : ∀ part ∈ parts, '/' ∉ part.toList)
    (hwalk : disk.walk here parts = .ok place) : ∀ name ∈ place, IsEntryName name := by
  induction parts generalizing here with
  | nil =>
      cases hwalk
      exact hhere
  | cons part parts ih =>
      obtain ⟨hpart, hrest⟩ := List.forall_mem_cons.1 hparts
      rw [walk] at hwalk
      cases hstep : disk.step here part with
      | error cause => simp [hstep, bind, Except.bind] at hwalk
      | ok next =>
          rw [hstep] at hwalk
          exact ih (names_of_step hhere hpart hstep) hrest hwalk

namespace IsTree

variable {disk : Disk} (h : disk.IsTree)

include h

theorem names_start (path : Path) : ∀ name ∈ disk.start path, IsEntryName name := by
  intro name hname
  unfold start at hname
  split at hname
  · cases hname
  · exact h.home name hname

theorem names_of_locateFile {path : Path} {place : Place}
    (hlocate : disk.locateFile path = .ok place) : ∀ name ∈ place, IsEntryName name := by
  have hparts : ∀ part ∈ parts path, '/' ∉ part.toList := fun _ => separator_not_mem_of_mem_parts
  unfold locateFile at hlocate
  dsimp only at hlocate
  split at hlocate
  · next last front hback _ =>
    -- All that is left of the path before its last separators are parts of it.
    have hmem : ∀ part ∈ last :: front, part ∈ parts path := by
      intro part hpart
      rw [← hback] at hpart
      exact List.mem_reverse.1 ((List.dropWhile_sublist _).mem hpart)
    cases hwalk : disk.walk (disk.start path) front.reverse with
    | error cause => simp [hwalk, bind, Except.bind] at hlocate
    | ok here =>
        have hhere := names_of_walk (h.names_start path) (fun part hpart =>
          hparts part (hmem part (List.mem_cons_of_mem last (List.mem_reverse.1 hpart)))) hwalk
        simp only [hwalk, bind, Except.bind] at hlocate
        split at hlocate
        · exact names_of_step hhere (hparts last (hmem last List.mem_cons_self)) hlocate
        · cases hstep : disk.step here "." <;> simp [hstep] at hlocate
  · exact names_of_walk (h.names_start path) hparts (locate_eq_ok_iff.1 hlocate).2.2

theorem write {after : Disk} {path : Path} {chars : Text}
    (hwrite : disk.write path chars = .ok after) : after.IsTree := by
  obtain ⟨place, hlocate, -, rfl⟩ := write_eq_ok_iff.1 hwrite
  exact h.put (h.names_of_locateFile hlocate) _

theorem remove {after : Disk} {path : Path} (hremove : disk.remove path = .ok after) :
    after.IsTree := by
  obtain ⟨place, content, -, -, rfl⟩ := remove_eq_ok_iff.1 hremove
  exact h.erase place

end IsTree

end Disk

/-! ### What a run preserves -/

/-- All that a step of a run does to the disk is to save what became of a text. -/
theorem Run.process_fst_cases (run : Run) (disk : Disk) (path : Path) :
    (run.process disk path).1 = disk ∨
    ∃ text, disk.read path = .ok text ∧ (run.process disk path).1 =
      (run.writer.save path (run.migration.migrate text) disk).1 := by
  unfold process Migration.migrateFile
  cases hread : disk.read path with
  | error cause => exact .inl rfl
  | ok text =>
      refine .inr ⟨text, rfl, ?_⟩
      dsimp only
      split <;> next hsave => rw [hsave]

/-- The property stays when a file is written or removed. -/
structure Disk.Stable (P : Disk → Prop) : Prop where
  write : ∀ {disk after : Disk} {path : Path} {chars : Text},
    P disk → disk.write path chars = .ok after → P after
  remove : ∀ {disk after : Disk} {path : Path}, P disk → disk.remove path = .ok after → P after

namespace Disk.Stable

variable {P : Disk → Prop} (hP : Stable P)

include hP

theorem overwrite {path : Path} {text : Text} {andThen : Disk → Disk × Except FileError SaveStatus}
    (hthen : ∀ disk, P disk → P (andThen disk).1) {disk : Disk} (h : P disk) :
    P (Writer.overwrite path text andThen disk).1 := by
  unfold Writer.overwrite
  split
  · exact h
  · next hwrite => exact hthen _ (hP.write h hwrite)

theorem copyFirst {backup : Path} {text : Text}
    {andThen : Disk → Disk × Except FileError SaveStatus}
    (hthen : ∀ disk, P disk → P (andThen disk).1) {disk : Disk} (h : P disk) :
    P (Writer.copyFirst backup text andThen disk).1 := by
  unfold Writer.copyFirst
  split
  · exact h
  · next hwrite => exact hthen _ (hP.write h hwrite)

theorem dropCopy {backup : Path} {disk : Disk} (h : P disk) :
    P (Writer.dropCopy backup disk).1 := by
  unfold Writer.dropCopy
  split
  · exact h
  · next hremove => exact hP.remove h hremove

theorem save (writer : Writer) (path : Path) (outcome : Outcome) {disk : Disk} (h : P disk) :
    P (writer.save path outcome disk).1 := by
  unfold Writer.save Writer.replace
  split
  · exact h
  split
  · exact h
  dsimp only
  split
  · exact hP.overwrite (fun _ => id) h
  · exact hP.copyFirst (fun _ => hP.overwrite fun _ => id) h
  · exact hP.copyFirst (fun _ => hP.overwrite fun _ => hP.dropCopy) h

theorem process (run : Run) (path : Path) {disk : Disk} (h : P disk) :
    P (run.process disk path).1 := by
  rcases run.process_fst_cases disk path with hsame | ⟨text, -, hsave⟩
  · rwa [hsame]
  · rw [hsave]
    exact hP.save _ _ _ h

theorem processAll (run : Run) (paths : List Path) {disk : Disk} (h : P disk) :
    P (run.processAll disk paths).1 := by
  induction paths generalizing disk with
  | nil => exact h
  | cons path paths ih =>
      rw [Run.processAll_cons]
      exact ih (hP.process run path h)

end Disk.Stable

theorem Disk.stable_isTree : Disk.Stable Disk.IsTree where
  write h := h.write
  remove h := h.remove

/-! ### What a walk finds -/

namespace Disk

/-- The files below a place have different names from there on. -/
theorem nodup_filesBelow {disk : Disk} (h : disk.places.Nodup) (place : Place) :
    (disk.filesBelow place).Nodup := by
  unfold filesBelow
  refine List.Pairwise.filterMap _ ?_ (List.pairwise_map.1 h)
  intro entry entry' hne names hnames names' hnames' heq
  obtain ⟨other, node⟩ := entry
  obtain ⟨other', node'⟩ := entry'
  cases node with
  | directory => cases hnames
  | file content =>
      cases node' with
      | directory => cases hnames'
      | file content' =>
          simp only [Option.ite_none_right_eq_some, Option.some.injEq,
            List.isPrefixOf_iff_prefix] at hnames hnames'
          obtain ⟨⟨rest, rfl⟩, hrest⟩ := hnames
          obtain ⟨⟨rest', rfl⟩, hrest'⟩ := hnames'
          simp only [List.drop_left] at hrest hrest'
          exact hne (by rw [hrest, hrest', heq])

theorem IsTree.names_filesBelow {disk : Disk} (h : disk.IsTree) {place names : Place}
    (hnames : names ∈ disk.filesBelow place) : ∀ name ∈ names, IsEntryName name := by
  obtain ⟨⟨other, node⟩, hentry, hbelow⟩ := List.mem_filterMap.1 hnames
  cases node with
  | directory => cases hbelow
  | file content =>
      simp only [Option.ite_none_right_eq_some, Option.some.injEq] at hbelow
      obtain ⟨-, rfl⟩ := hbelow
      intro name hname
      exact h.names other (List.mem_map_of_mem hentry) name (List.mem_of_mem_drop hname)

/-- What a walk finds are names, and it finds no file twice. -/
theorem IsTree.exists_scan_eq {disk : Disk} (h : disk.IsTree) (root : Path) :
    ∃ found : List Place, disk.scan root = found.map Path.ofNames ∧ found.Nodup ∧
      ∀ names ∈ found, ∀ name ∈ names, IsEntryName name := by
  unfold scan
  split
  · exact ⟨[], rfl, List.nodup_nil, by simp⟩
  · split
    · refine ⟨_, rfl, (nodup_filesBelow h.distinct _).filter _, ?_⟩
      intro names hnames
      exact h.names_filesBelow (List.mem_filter.1 hnames).1
    · exact ⟨[], rfl, List.nodup_nil, by simp⟩

end Disk

end CodeMigration
