import CodeMigration.Proofs.FileSteps
import CodeMigration.Proofs.SavedFiles

/-!
# CodeMigration.Proofs.FileRuns

A run over a list of files, one step after the other. The report has an entry for each file,
in the order of the files. Nothing else changes on the disk than files that are recorded as
changed, and their copies (`node?_processAll`).
-/

namespace CodeMigration

/-! ### The report of a run -/

/-- Recording files adds their entries and counts them. -/
theorem RunReport.foldl_record (files : List FileReport) (report : RunReport) :
    files.foldl record report =
      { report with
        summary := (files.map (·.status)).foldl RunSummary.record report.summary
        files := report.files ++ files } := by
  induction files generalizing report with
  | nil => simp
  | cons file files ih =>
      rw [List.foldl_cons, ih]
      simp [record]

theorem RunReport.files_merge (report other : RunReport) :
    (report.merge other).files = report.files ++ other.files := by
  unfold merge
  rw [foldl_record]

/-- One of the entries records a change of the file with the path. -/
def RecordsChange (files : List FileReport) (path : Path) : Prop :=
  ∃ file ∈ files, file.path = path ∧ file.status = .changed

instance (files : List FileReport) (path : Path) : Decidable (RecordsChange files path) :=
  inferInstanceAs (Decidable (∃ file ∈ files, _))

theorem recordsChange_cons {file : FileReport} {files : List FileReport} {path : Path} :
    RecordsChange (file :: files) path ↔
      (file.path = path ∧ file.status = .changed) ∨ RecordsChange files path := by
  simp [RecordsChange]

theorem recordsChange_append {files others : List FileReport} {path : Path} :
    RecordsChange (files ++ others) path ↔
      RecordsChange files path ∨ RecordsChange others path := by
  simp only [RecordsChange, List.mem_append, or_and_right, exists_or]

namespace Run

variable {run : Run} {disk : Disk}

theorem report_perform (run : Run) (startedAt : TimeStamp) (disk : Disk) (paths : List Path) :
    (run.perform startedAt disk paths).2 =
      { run.newReport startedAt with
        summary := ((run.processAll disk paths).2.map (·.status)).foldl RunSummary.record {}
        files := (run.processAll disk paths).2 } :=
  RunReport.foldl_record (run.processAll disk paths).2 (run.newReport startedAt)

theorem files_perform (run : Run) (startedAt : TimeStamp) (disk : Disk) (paths : List Path) :
    (run.perform startedAt disk paths).2.files = (run.processAll disk paths).2 := by
  rw [report_perform]

/-! ### One step after the other -/

theorem path_process (run : Run) (disk : Disk) (path : Path) :
    (run.process disk path).2.path = path := by
  unfold process
  split
  · rfl
  · split <;> rfl

theorem processAll_cons (run : Run) (disk : Disk) (path : Path) (paths : List Path) :
    run.processAll disk (path :: paths) =
      ((run.processAll (run.process disk path).1 paths).1,
        (run.process disk path).2 :: (run.processAll (run.process disk path).1 paths).2) := rfl

theorem processAll_append (run : Run) (disk : Disk) (front back : List Path) :
    run.processAll disk (front ++ back) =
      ((run.processAll (run.processAll disk front).1 back).1,
        (run.processAll disk front).2 ++
          (run.processAll (run.processAll disk front).1 back).2) := by
  induction front generalizing disk with
  | nil => rfl
  | cons path front ih =>
      rw [List.cons_append, processAll_cons, processAll_cons, ih]
      rfl

theorem mem_of_recordsChange {paths : List Path} {path : Path}
    (h : RecordsChange (run.processAll disk paths).2 path) : path ∈ paths := by
  induction paths generalizing disk with
  | nil => simp [processAll, RecordsChange] at h
  | cons first paths ih =>
      rw [processAll_cons, recordsChange_cons, path_process] at h
      rcases h with ⟨heq, -⟩ | h
      · exact heq ▸ List.mem_cons_self
      · exact List.mem_cons_of_mem first (ih h)

/-! ### What stays -/

/-- A step that changes the disk is recorded as a change or as a failure, and is not a dry one. -/
theorem process_cases (run : Run) (disk : Disk) (path : Path) :
    (run.process disk path).1 = disk ∨
    (run.writer.dryRun = false ∧ ((run.process disk path).2.status = .changed ∨
      (run.process disk path).2.status = .failed)) := by
  unfold process
  cases run.migration.migrateFile disk path with
  | error cause => exact .inl rfl
  | ok outcome =>
      have hsave := run.writer.save_cases path outcome disk
      dsimp only
      generalize run.writer.save path outcome disk = result at hsave ⊢
      obtain ⟨after, result⟩ := result
      rcases hsave with rfl | ⟨hdry, ⟨backup, rfl⟩ | ⟨cause, rfl⟩⟩
      · rcases result with cause | _ | _ | backup <;> exact .inl rfl
      · exact .inr ⟨hdry, .inl rfl⟩
      · exact .inr ⟨hdry, .inr rfl⟩

theorem processAll_cases (run : Run) (disk : Disk) (paths : List Path) :
    (run.processAll disk paths).1 = disk ∨
    (run.writer.dryRun = false ∧ ∃ file ∈ (run.processAll disk paths).2,
      file.status = .changed ∨ file.status = .failed) := by
  induction paths generalizing disk with
  | nil => exact .inl rfl
  | cons path paths ih =>
      rw [processAll_cons]
      rcases run.process_cases disk path with hsame | ⟨hdry, hstatus⟩
      · rw [hsame]
        exact (ih disk).imp_right fun ⟨hdry, file, hfile, hstatus⟩ =>
          ⟨hdry, file, List.mem_cons_of_mem _ hfile, hstatus⟩
      · exact .inr ⟨hdry, _, List.mem_cons_self, hstatus⟩

section

variable (hsuffix : IsNameSuffix run.writer.suffix)

include hsuffix

theorem sameDirectories_processAll {paths : List Path} (hplain : ∀ path ∈ paths, path.IsPlain)
    (disk : Disk) : Disk.SameDirectories disk (run.processAll disk paths).1 := by
  induction paths generalizing disk with
  | nil => exact .refl disk
  | cons path paths ih =>
      rw [processAll_cons]
      have hstep := sameDirectories_process (hplain path List.mem_cons_self) hsuffix disk
      exact hstep.trans (ih (fun other hother => hplain other (List.mem_cons_of_mem path hother)) _)

theorem placeOf_processAll {paths : List Path} (hplain : ∀ path ∈ paths, path.IsPlain)
    (path : Path) : (run.processAll disk paths).1.placeOf path = disk.placeOf path := by
  rw [Disk.placeOf, Disk.placeOf, (sameDirectories_processAll hsuffix hplain disk).home]

theorem placeOf_process {path : Path} (hplain : path.IsPlain) (other : Path) :
    (run.process disk path).1.placeOf other = disk.placeOf other := by
  rw [Disk.placeOf, Disk.placeOf, home_process hplain hsuffix]

/-- A step changes nothing but a file that it records as changed, and the copy of it. -/
theorem node?_process_of_ne {path : Path} (hplain : path.IsPlain) {place : Place}
    (h : (run.process disk path).2.status = .changed →
      place ≠ disk.placeOf path ∧ place ≠ disk.placeOf (run.writer.backupPath path)) :
    (run.process disk path).1.node? place = disk.node? place := by
  rw [node?_process hplain hsuffix]
  cases hstores : run.stores? disk path with
  | none => rfl
  | some outcome =>
      obtain ⟨hfile, hcopy⟩ := h (status_of_stores? hplain hsuffix hstores)
      simp only [if_neg hfile, if_neg hcopy]

/-- A run changes nothing but files that it records as changed, and their copies. -/
theorem node?_processAll {paths : List Path} (hplain : ∀ path ∈ paths, path.IsPlain)
    {place : Place} (h : ∀ path, RecordsChange (run.processAll disk paths).2 path →
      place ≠ disk.placeOf path ∧ place ≠ disk.placeOf (run.writer.backupPath path)) :
    (run.processAll disk paths).1.node? place = disk.node? place := by
  induction paths generalizing disk with
  | nil => rfl
  | cons path paths ih =>
      have hpath := hplain path List.mem_cons_self
      simp only [processAll_cons, recordsChange_cons, path_process] at h ⊢
      rw [ih fun other hother => hplain other (List.mem_cons_of_mem path hother)]
      · exact node?_process_of_ne hsuffix hpath fun hstatus => h path (.inl ⟨rfl, hstatus⟩)
      · intro other hother
        simpa only [placeOf_process hsuffix hpath] using h other (.inr hother)

end

end Run

end CodeMigration
