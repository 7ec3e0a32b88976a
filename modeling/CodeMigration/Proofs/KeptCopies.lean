import CodeMigration.Migration.NamedExports
import CodeMigration.Proofs.FileRuns
import Mathlib.Data.List.Nodup

/-!
# CodeMigration.Proofs.KeptCopies

Can every file be recovered from its copy after a run that keeps copies? The step for a file
writes the text that it reads to the copy, so two things can go wrong: the step does not read
the text from before the run, or the copy does not stay as it was written. Both take a file that
is listed behind the file that it is the copy of, where both are recorded as changed
(`CopyOverrun`). The step for the first writes to the second, which is then read, changed and
written. If the second file comes first, no harm is done, since its old text has a copy by the
time it is overwritten.

So files can be recovered unless there are two such files, and even then if both had the same
text and the migration brings it back to what it was (`recoverable_iff_not_overrun`).
-/

namespace CodeMigration.Run

/-- Every file that is recorded as changed has a copy with its text from before the run. -/
def Recoverable (run : Run) (startedAt : TimeStamp) (disk : Disk) (paths : List Path) : Prop :=
  ∀ path, RecordsChange (run.perform startedAt disk paths).2.files path →
    ∃ text, disk.read path = .ok text ∧
      (run.perform startedAt disk paths).1.read (run.writer.backupPath path) = .ok text

/-- The copy of a changed file is listed behind it, and is changed as well. -/
structure CopyOverrun (run : Run) (startedAt : TimeStamp) (disk : Disk) (paths : List Path)
    (path : Path) : Prop where
  listed : [path, run.writer.backupPath path].Sublist paths
  file : RecordsChange (run.perform startedAt disk paths).2.files path
  copy : RecordsChange (run.perform startedAt disk paths).2.files (run.writer.backupPath path)

/-- What the step for the file reads. -/
def found (run : Run) (disk : Disk) (paths : List Path) (path : Path) : Except DiskError Text :=
  (run.processAll disk (paths.takeWhile (· ≠ path))).1.read path

theorem found_append (run : Run) (disk : Disk) {front : List Path} {path : Path}
    (h : path ∉ front) (back : List Path) :
    run.found disk (front ++ path :: back) path = (run.processAll disk front).1.read path := by
  have hfront : ∀ other ∈ front, decide (other ≠ path) = true := by
    intro other hother
    exact decide_eq_true fun heq => h (heq ▸ hother)
  rw [found, List.takeWhile_append_of_pos hfront, List.takeWhile_cons_of_neg (by simp),
    List.append_nil]

variable {run : Run} {disk : Disk} {paths : List Path}

theorem copyOverrun_iff {startedAt : TimeStamp} {path : Path} :
    run.CopyOverrun startedAt disk paths path ↔
      [path, run.writer.backupPath path].Sublist paths ∧
        RecordsChange (run.processAll disk paths).2 path ∧
        RecordsChange (run.processAll disk paths).2 (run.writer.backupPath path) := by
  rw [← files_perform run startedAt]
  constructor
  · intro h
    exact ⟨h.listed, h.file, h.copy⟩
  · intro ⟨hlisted, hfile, hcopy⟩
    exact ⟨hlisted, hfile, hcopy⟩

/-! ### Steps in the middle of a run -/

/-- In a list without repetitions the entry of a file is the one of its step. -/
theorem recordsChange_middle_iff {front back : List Path} {path : Path}
    (hnodup : (front ++ path :: back).Nodup) :
    RecordsChange (run.processAll disk (front ++ path :: back)).2 path ↔
      (run.process (run.processAll disk front).1 path).2.status = .changed := by
  have hne := (List.nodup_cons.1 (List.nodup_middle.1 hnodup)).1
  rw [processAll_append, recordsChange_append, processAll_cons, recordsChange_cons, path_process]
  constructor
  · intro h
    rcases h with h | ⟨-, h⟩ | h
    · exact absurd (List.mem_append_left back (mem_of_recordsChange h)) hne
    · exact h
    · exact absurd (List.mem_append_right front (mem_of_recordsChange h)) hne
  · intro h
    exact .inr (.inl ⟨rfl, h⟩)

theorem processAll_middle_fst (run : Run) (disk : Disk) (front : List Path) (path : Path)
    (back : List Path) : (run.processAll disk (front ++ path :: back)).1 =
      (run.processAll (run.process (run.processAll disk front).1 path).1 back).1 := by
  rw [processAll_append, processAll_cons]

theorem exists_middle_of_recordsChange {path : Path} (hnodup : paths.Nodup)
    (h : RecordsChange (run.processAll disk paths).2 path) :
    ∃ front back, paths = front ++ path :: back ∧ path ∉ front ∧ path ∉ back ∧
      (run.process (run.processAll disk front).1 path).2.status = .changed := by
  obtain ⟨front, back, rfl⟩ := List.append_of_mem (mem_of_recordsChange h)
  have hne := (List.nodup_cons.1 (List.nodup_middle.1 hnodup)).1
  exact ⟨front, back, rfl, fun hmem => hne (List.mem_append_left back hmem),
    fun hmem => hne (List.mem_append_right front hmem), (recordsChange_middle_iff hnodup).1 h⟩

theorem exists_middle_of_pair {path other : Path} (hnodup : paths.Nodup)
    (h : [path, other].Sublist paths) :
    ∃ front middle back, paths = front ++ path :: (middle ++ other :: back) ∧
      paths = (front ++ path :: middle) ++ other :: back ∧ path ∉ front ∧ path ∉ middle ∧
      path ∉ back ∧ other ∉ front ++ path :: middle ∧ other ∉ back := by
  obtain ⟨before, after, rfl, hpath, hother⟩ := List.cons_sublist_iff.1 h
  obtain ⟨front, middle, rfl⟩ := List.append_of_mem hpath
  obtain ⟨more, back, rfl⟩ := List.append_of_mem (List.singleton_sublist.1 hother)
  have hfirst : (front ++ path :: middle) ++ (more ++ other :: back) =
      front ++ path :: ((middle ++ more) ++ other :: back) := by simp
  have hsecond : (front ++ path :: middle) ++ (more ++ other :: back) =
      (front ++ path :: (middle ++ more)) ++ other :: back := by simp
  refine ⟨front, middle ++ more, back, hfirst, hsecond, ?_⟩
  have hpath := (List.nodup_cons.1 (List.nodup_middle.1 (hfirst ▸ hnodup))).1
  have hother := (List.nodup_cons.1 (List.nodup_middle.1 (hsecond ▸ hnodup))).1
  rw [List.mem_append, List.mem_append, List.mem_cons] at hpath
  rw [List.mem_append] at hother
  simp only [not_or] at hpath hother
  exact ⟨hpath.1, hpath.2.1, hpath.2.2.2, hother⟩

/-! ### What becomes of a copy -/

/-- A copy stays as it is while neither its file nor itself is changed. -/
theorem node?_copy_processAll (hsuffix : IsNameSuffix run.writer.suffix)
    (hplain : ∀ path ∈ paths, path.IsPlain) {path : Path} {place : Place} {node : Option Node}
    (hnode : disk.node? place = node)
    (hplace : disk.placeOf (run.writer.backupPath path) = place) (hfile : path ∉ paths)
    (hcopy : ¬ RecordsChange (run.processAll disk paths).2 (run.writer.backupPath path)) :
    (run.processAll disk paths).1.node? place = node := by
  subst hplace hnode
  refine node?_processAll hsuffix hplain ?_
  intro other hother
  constructor
  · intro heq
    exact hcopy (Disk.placeOf_inj.1 heq ▸ hother)
  · intro heq
    exact hfile (Path.withSuffix_inj.1 (Disk.placeOf_inj.1 heq) ▸ mem_of_recordsChange hother)

/-- A run that keeps copies of different files with plain paths. -/
structure KeepsCopies (run : Run) (paths : List Path) : Prop where
  keep : run.writer.mode = .keep
  named : IsNameSuffix run.writer.suffix
  plain : ∀ path ∈ paths, path.IsPlain
  nodup : paths.Nodup

namespace KeepsCopies

variable (h : KeepsCopies run paths) (hreal : run.writer.dryRun = false)

include h hreal

/-- What a step does that is recorded as a change: the text that was read goes to the copy. -/
theorem exists_text {path : Path} (hpath : path ∈ paths) (disk : Disk)
    (hstatus : (run.process disk path).2.status = .changed) :
    ∃ text, disk.read path = .ok text ∧
      disk.locate (run.writer.backupPath path) =
        .ok (disk.placeOf (run.writer.backupPath path)) ∧
      (run.process disk path).1.node? (disk.placeOf path) =
        some (.file (.text (run.migration.migrate text).after)) ∧
      (run.process disk path).1.node? (disk.placeOf (run.writer.backupPath path)) =
        some (.file (.text text)) := by
  have hplain := h.plain path hpath
  obtain ⟨outcome, hstores⟩ := exists_stores?_of_status hplain h.named hreal hstatus
  obtain ⟨text, hread, rfl, hfault⟩ := stores?_eq_some hstores
  rw [Writer.fault?, h.keep] at hfault
  have hne := Writer.placeOf_backupPath_ne h.named disk path
  refine ⟨text, hread, Disk.locate_of_writeError? (hplain.withSuffix h.named) hfault, ?_, ?_⟩
  · rw [node?_process hplain h.named, hstores]
    simp
  · rw [node?_process hplain h.named, hstores]
    simp [hne, Writer.copyNode?, h.keep, Migration.migrate]

theorem found_eq_ok {path : Path} (hchange : RecordsChange (run.processAll disk paths).2 path) :
    ∃ text, run.found disk paths path = .ok text := by
  obtain ⟨front, back, rfl, hfront, -, hstatus⟩ := exists_middle_of_recordsChange h.nodup hchange
  obtain ⟨text, hread, -⟩ := h.exists_text hreal (by simp) _ hstatus
  exact ⟨text, by rw [found_append _ _ hfront, hread]⟩

/-- A file is read as it was before the run, unless it is the copy of a changed file before it. -/
theorem read_eq_found {path : Path} (hchange : RecordsChange (run.processAll disk paths).2 path)
    (hfirst : ∀ other, [other, path].Sublist paths →
      RecordsChange (run.processAll disk paths).2 other → run.writer.backupPath other ≠ path) :
    disk.read path = run.found disk paths path := by
  obtain ⟨front, back, rfl, hfront, -, hstatus⟩ := exists_middle_of_recordsChange h.nodup hchange
  obtain ⟨text, hread, -, -, -⟩ := h.exists_text hreal (by simp) _ hstatus
  have hplain : ∀ other ∈ front, other.IsPlain := by
    intro other hother
    exact h.plain other (by simp [hother])
  have hsame := sameDirectories_processAll h.named hplain disk
  -- No step before the one for the file writes to it.
  have hstays : (run.processAll disk front).1.node? (disk.placeOf path) =
      disk.node? (disk.placeOf path) := by
    refine node?_processAll h.named hplain ?_
    intro other hother
    constructor
    · intro heq
      exact hfront (Disk.placeOf_inj.1 heq ▸ mem_of_recordsChange hother)
    · intro heq
      refine hfirst other ?_ ?_ (Disk.placeOf_inj.1 heq).symm
      · exact (List.singleton_sublist.2 (mem_of_recordsChange hother)).append
          (List.singleton_sublist.2 List.mem_cons_self)
      · rw [processAll_append]
        exact recordsChange_append.2 (.inl hother)
  have hpath := h.plain path (by simp)
  have hlocate := hpath.locate_of_read hread
  have hnode := hpath.node?_of_read hread
  rw [placeOf_processAll h.named hplain] at hlocate hnode
  rw [found_append _ _ hfront, hread]
  exact hsame.symm.read_eq_ok hlocate (hstays ▸ hnode)

/-- The copy of a changed file before it is read as that file was. -/
theorem found_copy {path : Path} (hlisted : [path, run.writer.backupPath path].Sublist paths)
    (hfile : RecordsChange (run.processAll disk paths).2 path)
    (hcopy : RecordsChange (run.processAll disk paths).2 (run.writer.backupPath path)) :
    run.found disk paths (run.writer.backupPath path) = run.found disk paths path := by
  obtain ⟨front, middle, back, rfl, hassoc, hfront, hmiddle, -, hbefore, -⟩ :=
    exists_middle_of_pair h.nodup hlisted
  have hpath : path.IsPlain := h.plain path (by simp)
  have hplain : ∀ other ∈ middle, other.IsPlain := by
    intro other hother
    exact h.plain other (by simp [hother])
  -- The step for the file writes what it reads to the copy, which then stays until its own step.
  obtain ⟨text, hread, -, -, hwritten⟩ :=
    h.exists_text hreal (by simp) _ ((recordsChange_middle_iff h.nodup).1 hfile)
  rw [hassoc, recordsChange_middle_iff (hassoc ▸ h.nodup), processAll_middle_fst] at hcopy
  obtain ⟨text', hread', -, -, -⟩ := h.exists_text hreal (by simp) _ hcopy
  have hunlisted : run.writer.backupPath path ∉ middle := fun hmem => hbefore (by simp [hmem])
  have hstays := node?_copy_processAll h.named hplain hwritten (placeOf_process h.named hpath _)
    hmiddle fun hrecord => hunlisted (mem_of_recordsChange hrecord)
  have hnode := (hpath.withSuffix h.named).node?_of_read hread'
  rw [placeOf_processAll h.named hplain, placeOf_process h.named hpath] at hnode
  have htext : text' = text := by
    simpa using hnode.symm.trans hstays
  have hfound : run.found disk (front ++ path :: (middle ++ run.writer.backupPath path :: back))
      (run.writer.backupPath path) = .ok text' := by
    rw [hassoc, found_append _ _ hbefore, processAll_middle_fst, hread']
  rw [hfound, found_append _ _ hfront, hread, htext]

/-- The copy of a changed file has the text that was read, unless it is overrun. -/
theorem read_copy {path : Path} (hfile : RecordsChange (run.processAll disk paths).2 path)
    (hlast : ¬ ([path, run.writer.backupPath path].Sublist paths ∧
      RecordsChange (run.processAll disk paths).2 (run.writer.backupPath path))) :
    (run.processAll disk paths).1.read (run.writer.backupPath path) =
      run.found disk paths path := by
  obtain ⟨front, back, rfl, hfront, hback, hstatus⟩ := exists_middle_of_recordsChange h.nodup hfile
  obtain ⟨text, hread, hlocate, -, hwritten⟩ := h.exists_text hreal (by simp) _ hstatus
  have hpath : path.IsPlain := h.plain path (by simp)
  have hplain : ∀ other ∈ back, other.IsPlain := by
    intro other hother
    exact h.plain other (by simp [hother])
  have hkept : ¬ RecordsChange (run.processAll (run.process (run.processAll disk front).1 path).1
      back).2 (run.writer.backupPath path) := by
    intro hrecord
    refine hlast ⟨?_, ?_⟩
    · refine List.Sublist.trans ?_ (List.sublist_append_right front _)
      exact (List.singleton_sublist.2 (mem_of_recordsChange hrecord)).cons_cons path
    · rw [processAll_append, processAll_cons, recordsChange_append, recordsChange_cons]
      exact .inr (.inr hrecord)
  have hstays := node?_copy_processAll h.named hplain hwritten (placeOf_process h.named hpath _)
    hback hkept
  have hstep := sameDirectories_process hpath h.named (run.processAll disk front).1
  have hsame := hstep.trans (sameDirectories_processAll h.named hplain _)
  rw [found_append _ _ hfront, hread, processAll_middle_fst]
  exact hsame.read_eq_ok hlocate hstays

/-- A copy that is overrun has what the migration makes of the text. -/
theorem read_overrun {path : Path} (hlisted : [path, run.writer.backupPath path].Sublist paths)
    (hcopy : RecordsChange (run.processAll disk paths).2 (run.writer.backupPath path)) :
    ∃ text, run.found disk paths (run.writer.backupPath path) = .ok text ∧
      (run.processAll disk paths).1.read (run.writer.backupPath path) =
        .ok (run.migration.migrate text).after := by
  obtain ⟨front, middle, back, -, rfl, -, -, hback, hbefore, hbehind⟩ :=
    exists_middle_of_pair h.nodup hlisted
  obtain ⟨text, hread, -, hwritten, -⟩ :=
    h.exists_text hreal (by simp) _ ((recordsChange_middle_iff h.nodup).1 hcopy)
  have hplain : (run.writer.backupPath path).IsPlain := h.plain _ (by simp)
  have hrest : ∀ other ∈ back, other.IsPlain := by
    intro other hother
    exact h.plain other (by simp [hother])
  -- The step for the copy is the last one that writes to it.
  have hstays := node?_copy_processAll h.named hrest hwritten (placeOf_process h.named hplain _)
    hback fun hrecord => hbehind (mem_of_recordsChange hrecord)
  have hstep := sameDirectories_process hplain h.named
    (run.processAll disk (front ++ path :: middle)).1
  have hsame := hstep.trans (sameDirectories_processAll h.named hrest _)
  refine ⟨text, ?_, ?_⟩
  · rw [found_append _ _ hbefore, hread]
  · rw [processAll_middle_fst]
    exact hsame.read_eq_ok (hplain.locate_of_read hread) hstays

/-! ### When files can be recovered -/

/-- If no copy that is overrun had another text than its file, then every changed file is read
as it was before the run. -/
theorem found_eq_read (startedAt : TimeStamp)
    (hover : ∀ path, run.CopyOverrun startedAt disk paths path →
      run.found disk paths path = disk.read path →
        disk.read (run.writer.backupPath path) = disk.read path)
    {path : Path} (hchange : RecordsChange (run.processAll disk paths).2 path) :
    run.found disk paths path = disk.read path := by
  -- A file has a shorter path than its copy.
  induction hlength : path.text.length using Nat.strongRecOn generalizing path with
  | ind length ih =>
      by_cases hfirst : ∀ other, [other, path].Sublist paths →
          RecordsChange (run.processAll disk paths).2 other → run.writer.backupPath other ≠ path
      · exact (h.read_eq_found hreal hchange hfirst).symm
      · push Not at hfirst
        obtain ⟨other, hlisted, hother, rfl⟩ := hfirst
        have hshorter : other.text.length < length := by
          have hpos : 0 < run.writer.suffix.length := by
            refine Nat.pos_of_ne_zero fun hzero => h.named.1 ?_
            exact String.length_eq_zero_iff.1 hzero
          rw [← hlength]
          simp [Writer.backupPath, Path.withSuffix, hpos]
        have hread := ih _ hshorter hother rfl
        have hoverrun : run.CopyOverrun startedAt disk paths other :=
          copyOverrun_iff.2 ⟨hlisted, hother, hchange⟩
        rw [h.found_copy hreal hlisted hother hchange, hread]
        exact (hover other hoverrun hread).symm

/-- If files can be recovered, then a copy that is overrun is none that was needed. -/
theorem unharmed_of_recoverable {startedAt : TimeStamp}
    (hrecoverable : run.Recoverable startedAt disk paths) {path : Path}
    (hover : run.CopyOverrun startedAt disk paths path)
    (hfound : run.found disk paths path = disk.read path) :
    ∃ text, disk.read path = .ok text ∧ disk.read (run.writer.backupPath path) = .ok text ∧
      (run.migration.migrate text).after = text := by
  obtain ⟨hlisted, hfile, hcopy⟩ := copyOverrun_iff.1 hover
  obtain ⟨text, htext, hfinal⟩ := h.read_overrun hreal hlisted hcopy
  have hbefore : disk.read path = .ok text := by
    rw [← hfound, ← h.found_copy hreal hlisted hfile hcopy, htext]
  -- The copy holds the new text at the end, and the old one too if the file can be recovered.
  have hkept : (run.migration.migrate text).after = text := by
    obtain ⟨old, hold, hread⟩ := hrecoverable path hover.file
    have hfinal' : Except.ok (run.migration.migrate text).after = Except.ok old :=
      hfinal.symm.trans hread
    rw [Except.ok.inj hfinal', ← Except.ok.inj (hold.symm.trans hbefore)]
  -- The copy of the copy holds the text that the copy is read with, overrun or not.
  obtain ⟨old, hold, hread⟩ := hrecoverable _ hover.copy
  have hlast : (run.processAll disk paths).1.read
      (run.writer.backupPath (run.writer.backupPath path)) = .ok text := by
    by_cases hagain : run.CopyOverrun startedAt disk paths (run.writer.backupPath path)
    · obtain ⟨hlisted', hfile', hcopy'⟩ := copyOverrun_iff.1 hagain
      obtain ⟨text', htext', hfinal'⟩ := h.read_overrun hreal hlisted' hcopy'
      rw [h.found_copy hreal hlisted' hfile' hcopy', htext] at htext'
      cases htext'
      rw [hfinal', hkept]
    · rw [h.read_copy hreal hcopy, htext]
      intro ⟨hlisted', hcopy'⟩
      exact hagain (copyOverrun_iff.2 ⟨hlisted', hcopy, hcopy'⟩)
  refine ⟨text, hbefore, ?_, hkept⟩
  rw [hold, ← hlast]
  exact hread.symm

/-- If no copy that is overrun was needed, then files can be recovered. -/
theorem recoverable_of_unharmed {startedAt : TimeStamp}
    (hunharmed : ∀ path, run.CopyOverrun startedAt disk paths path →
      ∃ text, disk.read path = .ok text ∧ disk.read (run.writer.backupPath path) = .ok text ∧
        (run.migration.migrate text).after = text) :
    run.Recoverable startedAt disk paths := by
  intro path hchange
  rw [files_perform] at hchange
  have hfound : run.found disk paths path = disk.read path := by
    refine h.found_eq_read hreal startedAt ?_ hchange
    intro other hother _
    obtain ⟨text, hfile, hcopy, -⟩ := hunharmed other hother
    rw [hfile, hcopy]
  by_cases hover : run.CopyOverrun startedAt disk paths path
  · obtain ⟨hlisted, hfile, hcopy⟩ := copyOverrun_iff.1 hover
    obtain ⟨text, hbefore, -, hkept⟩ := hunharmed path hover
    obtain ⟨text', htext', hfinal⟩ := h.read_overrun hreal hlisted hcopy
    rw [h.found_copy hreal hlisted hfile hcopy, hfound, hbefore] at htext'
    cases htext'
    exact ⟨text, hbefore, hkept ▸ hfinal⟩
  · obtain ⟨text, htext⟩ := h.found_eq_ok hreal hchange
    refine ⟨text, hfound ▸ htext, ?_⟩
    rw [← htext]
    refine h.read_copy hreal hchange ?_
    intro ⟨hlisted, hcopy⟩
    exact hover (copyOverrun_iff.2 ⟨hlisted, hchange, hcopy⟩)

end KeepsCopies

/-- After a run that keeps copies every changed file can be recovered, just if every copy that
is overrun had the text of its file, and the migration brings that text back to what it was. In
a dry run there is nothing to recover. -/
theorem recoverable_iff_not_overrun (startedAt : TimeStamp) (disk : Disk)
    (h : KeepsCopies run paths) :
    (run.writer.dryRun = true → (run.perform startedAt disk paths).1 = disk) ∧
    (run.writer.dryRun = false →
      (run.Recoverable startedAt disk paths ↔
        ∀ path, run.CopyOverrun startedAt disk paths path →
          ∃ text, disk.read path = .ok text ∧ disk.read (run.writer.backupPath path) = .ok text ∧
            (run.migration.migrate text).after = text)) := by
  constructor
  · intro hdry
    rcases run.processAll_cases disk paths with hsame | ⟨hreal, -⟩
    · exact hsame
    · simp [hdry] at hreal
  · intro hreal
    constructor
    · intro hrecoverable path hover
      refine h.unharmed_of_recoverable hreal hrecoverable hover ?_
      refine h.found_eq_read hreal startedAt ?_ (copyOverrun_iff.1 hover).2.1
      intro other hother hfound
      obtain ⟨text, hfile, hcopy, -⟩ := h.unharmed_of_recoverable hreal hrecoverable hother hfound
      rw [hfile, hcopy]
    · exact h.recoverable_of_unharmed hreal

/-- A file with the name of a copy does no harm if it is listed first. -/
theorem recoverable_copy_first :
    let run : Run := ⟨NamedExports.migration, {}, false⟩
    let paths : List Path := ["a.ts.backup", "a.ts"]
    let disk : Disk := ⟨[(["a.ts"], .file (.text "export default class A".toList)),
      (["a.ts.backup"], .file (.text "export default class B".toList))], []⟩
    run.KeepsCopies paths ∧ (run.perform {} disk paths).2.summary.changed = 2 ∧
      run.Recoverable {} disk paths := by
  intro run paths disk
  have hkeeps : run.KeepsCopies paths := ⟨rfl, by decide, by decide, by decide⟩
  refine ⟨hkeeps, by decide +kernel, ((recoverable_iff_not_overrun {} disk hkeeps).2 rfl).2 ?_⟩
  intro path hover
  have hlisted := hover.listed.eq_of_length rfl
  simp only [paths, List.cons.injEq] at hlisted
  obtain ⟨rfl, hcopy, -⟩ := hlisted
  exact absurd hcopy (by decide)

/-- A file with the name of a copy that is listed behind the file loses its text, and the copy
does not hold the text of the file either. -/
theorem not_recoverable_copy_behind :
    let run : Run := ⟨NamedExports.migration, {}, false⟩
    let paths : List Path := ["a.ts", "a.ts.backup"]
    let disk : Disk := ⟨[(["a.ts"], .file (.text "export default class A".toList)),
      (["a.ts.backup"], .file (.text "export default class B".toList))], []⟩
    run.KeepsCopies paths ∧ ¬ run.Recoverable {} disk paths := by
  intro run paths disk
  refine ⟨⟨rfl, by decide, by decide, by decide⟩, ?_⟩
  intro hrecoverable
  obtain ⟨text, hbefore, hcopy⟩ := hrecoverable "a.ts" (by decide +kernel)
  have hread : disk.read "a.ts" = .ok "export default class A".toList := by decide +kernel
  have hfinal : (run.perform {} disk paths).1.read (run.writer.backupPath "a.ts") =
      .ok "export class A".toList := by decide +kernel
  rw [hread] at hbefore
  rw [hfinal, ← hbefore] at hcopy
  simp at hcopy

end CodeMigration.Run
