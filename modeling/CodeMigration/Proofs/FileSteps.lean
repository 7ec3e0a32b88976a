import CodeMigration.Proofs.PlainPaths
import CodeMigration.Run

/-!
# CodeMigration.Proofs.FileSteps

One step of a run: what becomes of a file with a plain path. The step looks at the disk
twice, to read the file and to write its copy, and what these give decides all the rest
(`Run.verdict`). A file that could be read can also be written, and a copy that was written
can be removed, so the step either leaves the disk as it is or does all of its work
(`process_eq`). What it then changes is known place by place (`node?_process`).
-/

namespace CodeMigration

/-! ### Storing a text -/

namespace Writer

variable {writer : Writer} {path : Path} {disk : Disk}

/-- Why the copy of the file cannot be written, if a copy is wanted. -/
def fault? (writer : Writer) (disk : Disk) (path : Path) : Option DiskError :=
  if writer.mode = .none then none else disk.writeError? (writer.backupPath path)

/-- The copy that is left beside the file. -/
def copyLeft (writer : Writer) (path : Path) : Option Path :=
  if writer.mode = .keep then some (writer.backupPath path) else none

/-- The disk with the new text of the file, and with its copy as the mode asks. -/
def stored (writer : Writer) (disk : Disk) (path : Path) (outcome : Outcome) : Disk :=
  let file := disk.placeOf path
  let copy := disk.placeOf (writer.backupPath path)
  match writer.mode with
  | .none => disk.put file (.file (.text outcome.after))
  | .keep =>
    (disk.put copy (.file (.text outcome.before))).put file (.file (.text outcome.after))
  | .transient =>
    ((disk.put copy (.file (.text outcome.before))).put file
      (.file (.text outcome.after))).erase copy

/-- What stands at the place of the copy when the text is stored. -/
def copyNode? (writer : Writer) (disk : Disk) (path : Path) (outcome : Outcome) : Option Node :=
  match writer.mode with
  | .none => disk.node? (disk.placeOf (writer.backupPath path))
  | .keep => some (.file (.text outcome.before))
  | .transient => none

theorem home_stored (writer : Writer) (disk : Disk) (path : Path) (outcome : Outcome) :
    (writer.stored disk path outcome).home = disk.home := by
  unfold stored
  cases writer.mode <;> rfl

theorem placeOf_backupPath_ne (hsuffix : IsNameSuffix writer.suffix) (disk : Disk) (path : Path) :
    disk.placeOf (writer.backupPath path) ≠ disk.placeOf path := by
  intro heq
  exact path.withSuffix_ne hsuffix (Disk.placeOf_inj.1 heq)

theorem node?_of_fault? (hplain : path.IsPlain) (hsuffix : IsNameSuffix writer.suffix)
    (h : writer.fault? disk path = none) (hmode : writer.mode ≠ .none) :
    disk.node? (disk.placeOf (writer.backupPath path)) ≠ some .directory := by
  rw [fault?, if_neg hmode] at h
  exact Disk.node?_of_writeError? (hplain.withSuffix hsuffix) h

theorem node?_stored (hsuffix : IsNameSuffix writer.suffix) (disk : Disk) (path : Path)
    (outcome : Outcome) (place : Place) :
    (writer.stored disk path outcome).node? place =
      if place = disk.placeOf path then some (.file (.text outcome.after))
      else if place = disk.placeOf (writer.backupPath path) then
        writer.copyNode? disk path outcome
      else disk.node? place := by
  have hne := placeOf_backupPath_ne hsuffix disk path
  have hfile := disk.placeOf_ne_nil path
  have hcopy := disk.placeOf_ne_nil (writer.backupPath path)
  unfold stored copyNode?
  cases writer.mode with
  | none =>
      rw [Disk.node?_put _ _ _ _ hfile]
      by_cases hplace : place = disk.placeOf (writer.backupPath path) <;> simp [hplace]
  | keep => rw [Disk.node?_put _ _ _ _ hfile, Disk.node?_put _ _ _ _ hcopy]
  | transient =>
      rw [Disk.node?_erase _ _ _ hcopy, Disk.node?_put _ _ _ _ hfile, Disk.node?_put _ _ _ _ hcopy]
      by_cases hplace : place = disk.placeOf (writer.backupPath path) <;> simp [hplace, hne]

/-- The copy and the file can be written one after the other, and both can still be found. -/
theorem write_copied (hplain : path.IsPlain) (hcopy : (writer.backupPath path).IsPlain)
    {text : Text} (hread : disk.read path = .ok text)
    (hfault : disk.writeError? (writer.backupPath path) = none) (old new : Text) :
    let copied := disk.put (disk.placeOf (writer.backupPath path)) (.file (.text old))
    let written := copied.put (disk.placeOf path) (.file (.text new))
    disk.write (writer.backupPath path) old = .ok copied ∧ copied.write path new = .ok written ∧
      Disk.SameDirectories disk written := by
  intro copied written
  have hplace := Disk.node?_of_writeError? hcopy hfault
  have hcopied : Disk.SameDirectories disk copied := Disk.sameDirectories_put hplace _
  have hfile := Disk.writeError?_of_read hplain hread hcopied
  have hwritten : Disk.SameDirectories copied written :=
    Disk.sameDirectories_put (Disk.node?_of_writeError? hplain hfile) _
  refine ⟨?_, ?_, hcopied.trans hwritten⟩
  · rw [Disk.write_eq _ hcopy, hfault]
  · rw [Disk.write_eq _ hplain, hfile]
    rfl

/-- A file that can be read is replaced unless its copy cannot be written. -/
theorem replace_eq (hplain : path.IsPlain) (hsuffix : IsNameSuffix writer.suffix) {text : Text}
    (hread : disk.read path = .ok text) (outcome : Outcome) :
    writer.replace path outcome disk =
      match writer.fault? disk path with
      | some cause => (disk, .error (.backupFailed (writer.backupPath path).text cause))
      | none => (writer.stored disk path outcome, .ok (.written (writer.copyLeft path))) := by
  have hcopy : (writer.backupPath path).IsPlain := hplain.withSuffix hsuffix
  unfold replace fault? stored copyLeft
  cases hmode : writer.mode with
  | none =>
      have hfault := Disk.writeError?_of_read hplain hread (.refl disk)
      simp [overwrite, disk.write_eq hplain, hfault]
  | keep =>
      cases hfault : disk.writeError? (writer.backupPath path) with
      | some cause => simp [copyFirst, disk.write_eq hcopy, hfault]
      | none =>
          obtain ⟨hcopied, hwritten, -⟩ :=
            write_copied hplain hcopy hread hfault outcome.before outcome.after
          simp [copyFirst, overwrite, hcopied, hwritten]
  | transient =>
      cases hfault : disk.writeError? (writer.backupPath path) with
      | some cause => simp [copyFirst, disk.write_eq hcopy, hfault]
      | none =>
          obtain ⟨hcopied, hwritten, hsame⟩ :=
            write_copied hplain hcopy hread hfault outcome.before outcome.after
          -- The copy is where it was put, so it can be removed.
          have hnode : ((disk.put (disk.placeOf (writer.backupPath path))
              (.file (.text outcome.before))).put (disk.placeOf path)
              (.file (.text outcome.after))).node? (disk.placeOf (writer.backupPath path)) =
              some (.file (.text outcome.before)) := by
            rw [Disk.node?_put _ _ _ _ (disk.placeOf_ne_nil path),
              if_neg (placeOf_backupPath_ne hsuffix disk path),
              Disk.node?_put _ _ _ _ (disk.placeOf_ne_nil _), if_pos rfl]
          have hremoved := Disk.remove_eq_ok_iff.2
            ⟨_, _, hsame.locate_eq_ok (Disk.locate_of_writeError? hcopy hfault), hnode, rfl⟩
          simp [copyFirst, overwrite, dropCopy, hcopied, hwritten, hremoved]

end Writer

/-! ### A step of a run -/

namespace Run

variable {run : Run} {path : Path} {disk : Disk}

/-- What becomes of a file, given what reading it gives and why its copy cannot be written:
the outcome that is stored, if one is, and the record of the file. -/
def verdict (run : Run) (path : Path) (found : Except DiskError Text) (fault : Option DiskError) :
    Option Outcome × FileReport :=
  match found with
  | .error cause =>
    (none, { path := path, status := .notFound
             error := some (FileError.unreadable path.text cause).message })
  | .ok text =>
    let outcome := run.migration.migrate text
    if !outcome.changed then (none, { path := path, status := .skipped })
    else if run.writer.dryRun then (none, run.changedFile path outcome none)
    else
      match fault with
      | some cause =>
        (none, { path := path, status := .failed, appliedRules := outcome.applied
                 error := some
                   (FileError.backupFailed (run.writer.backupPath path).text cause).message })
      | none => (some outcome, run.changedFile path outcome (run.writer.copyLeft path))

/-- The outcome that a step stores on the disk, if it stores one. -/
def stores? (run : Run) (disk : Disk) (path : Path) : Option Outcome :=
  (run.verdict path (disk.read path) (run.writer.fault? disk path)).1

/-- A step either leaves the disk as it is or does all of its work. -/
theorem process_eq (hplain : path.IsPlain) (hsuffix : IsNameSuffix run.writer.suffix) :
    run.process disk path =
      ((match run.stores? disk path with
        | none => disk
        | some outcome => run.writer.stored disk path outcome),
      (run.verdict path (disk.read path) (run.writer.fault? disk path)).2) := by
  unfold process Migration.migrateFile stores? verdict
  cases hread : disk.read path with
  | error cause => rfl
  | ok text =>
      simp only [Writer.save]
      by_cases hchanged : (run.migration.migrate text).changed = true
      · by_cases hdry : run.writer.dryRun = true
        · simp [hchanged, hdry]
        · rw [Writer.replace_eq hplain hsuffix hread]
          cases hfault : run.writer.fault? disk path <;> simp [hchanged, hdry]
      · simp [hchanged]

/-- All that can become of a file: its outcome is stored, or nothing is stored, and then it is
recorded as changed only in a dry run. -/
theorem verdict_cases (run : Run) (path : Path) (found : Except DiskError Text)
    (fault : Option DiskError) :
    (∃ text, found = .ok text ∧ fault = none ∧ run.writer.dryRun = false ∧
      run.verdict path found fault = (some (run.migration.migrate text),
        run.changedFile path (run.migration.migrate text) (run.writer.copyLeft path))) ∨
    ((run.verdict path found fault).1 = none ∧
      ((run.verdict path found fault).2.status = .changed → run.writer.dryRun = true)) := by
  unfold verdict
  cases found with
  | error cause => exact .inr ⟨rfl, by simp⟩
  | ok text =>
      by_cases hchanged : (run.migration.migrate text).changed = true
      · by_cases hdry : run.writer.dryRun = true
        · exact .inr (by simp [hchanged, hdry])
        · cases fault with
          | some cause => exact .inr (by simp [hchanged, hdry])
          | none => exact .inl ⟨text, rfl, rfl, by simpa using hdry, by simp [hchanged, hdry]⟩
      · exact .inr (by simp [hchanged])

theorem stores?_eq_some {outcome : Outcome} (h : run.stores? disk path = some outcome) :
    ∃ text, disk.read path = .ok text ∧ outcome = run.migration.migrate text ∧
      run.writer.fault? disk path = none := by
  rcases run.verdict_cases path (disk.read path) (run.writer.fault? disk path) with
    ⟨text, hread, hfault, -, hverdict⟩ | ⟨hnone, -⟩
  · rw [stores?, hverdict] at h
    exact ⟨text, hread, (Option.some.inj h).symm, hfault⟩
  · rw [stores?, hnone] at h
    cases h

/-- Only a file that is recorded as changed is stored. -/
theorem status_of_stores? {outcome : Outcome} (hplain : path.IsPlain)
    (hsuffix : IsNameSuffix run.writer.suffix) (h : run.stores? disk path = some outcome) :
    (run.process disk path).2.status = .changed := by
  rw [process_eq hplain hsuffix]
  rcases run.verdict_cases path (disk.read path) (run.writer.fault? disk path) with
    ⟨text, -, -, -, hverdict⟩ | ⟨hnone, -⟩
  · rw [hverdict]
    rfl
  · rw [stores?, hnone] at h
    cases h

/-- Outside a dry run a file that is recorded as changed was stored. -/
theorem exists_stores?_of_status (hplain : path.IsPlain) (hsuffix : IsNameSuffix run.writer.suffix)
    (hdry : run.writer.dryRun = false) (h : (run.process disk path).2.status = .changed) :
    ∃ outcome, run.stores? disk path = some outcome := by
  rw [process_eq hplain hsuffix] at h
  rcases run.verdict_cases path (disk.read path) (run.writer.fault? disk path) with
    ⟨text, -, -, -, hverdict⟩ | ⟨-, hstatus⟩
  · exact ⟨_, congrArg Prod.fst hverdict⟩
  · rw [hstatus h] at hdry
    cases hdry

theorem home_process (hplain : path.IsPlain) (hsuffix : IsNameSuffix run.writer.suffix) :
    (run.process disk path).1.home = disk.home := by
  rw [process_eq hplain hsuffix]
  cases run.stores? disk path with
  | none => rfl
  | some outcome => exact run.writer.home_stored disk path outcome

/-- What stands where after a step. -/
theorem node?_process (hplain : path.IsPlain) (hsuffix : IsNameSuffix run.writer.suffix)
    (place : Place) :
    (run.process disk path).1.node? place =
      match run.stores? disk path with
      | none => disk.node? place
      | some outcome =>
        if place = disk.placeOf path then some (.file (.text outcome.after))
        else if place = disk.placeOf (run.writer.backupPath path) then
          run.writer.copyNode? disk path outcome
        else disk.node? place := by
  rw [process_eq hplain hsuffix]
  cases run.stores? disk path with
  | none => rfl
  | some outcome => exact Writer.node?_stored hsuffix disk path outcome place

/-- A step makes no directory and takes none away. -/
theorem sameDirectories_process (hplain : path.IsPlain) (hsuffix : IsNameSuffix run.writer.suffix)
    (disk : Disk) : Disk.SameDirectories disk (run.process disk path).1 := by
  refine ⟨(home_process hplain hsuffix).symm, ?_⟩
  intro place
  rw [node?_process hplain hsuffix]
  cases hstores : run.stores? disk path with
  | none => rfl
  | some outcome =>
      obtain ⟨text, hread, -, hfault⟩ := stores?_eq_some hstores
      dsimp only
      by_cases hfile : place = disk.placeOf path
      · rw [if_pos hfile, hfile, hplain.node?_of_read hread]
        simp
      · rw [if_neg hfile]
        by_cases hcopy : place = disk.placeOf (run.writer.backupPath path)
        · rw [if_pos hcopy, hcopy]
          have hplace := Writer.node?_of_fault? hplain hsuffix hfault
          unfold Writer.copyNode?
          cases hmode : run.writer.mode with
          | none => rfl
          | keep => simpa using hplace (by simp [hmode])
          | transient => simpa using hplace (by simp [hmode])
        · rw [if_neg hcopy]

/-- A step can only change the kind of node at the place of the copy. -/
theorem kind?_process (hplain : path.IsPlain) (hsuffix : IsNameSuffix run.writer.suffix)
    {place : Place} (hplace : place ≠ disk.placeOf (run.writer.backupPath path)) :
    (run.process disk path).1.kind? place = disk.kind? place := by
  unfold Disk.kind?
  rw [node?_process hplain hsuffix]
  cases hstores : run.stores? disk path with
  | none => rfl
  | some outcome =>
      obtain ⟨text, hread, -, -⟩ := stores?_eq_some hstores
      dsimp only
      by_cases hfile : place = disk.placeOf path
      · rw [if_pos hfile, hfile, hplain.node?_of_read hread]
        rfl
      · rw [if_neg hfile, if_neg hplace]

end Run

end CodeMigration
