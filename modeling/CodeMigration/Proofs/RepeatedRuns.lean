import CodeMigration.Proofs.FileOrder
import CodeMigration.Proofs.KeptCopies
import CodeMigration.Proofs.WrappedClients

/-!
# CodeMigration.Proofs.RepeatedRuns

Two runs over the same files, where no file is the copy of another. Each file then fares as if
it were the only one, so it is enough to know what two steps for one file have to do with each
other.

* A dry run before a real one: both steps read the same text and fire the same rules, so the
  first foretells the second. Only a copy that cannot be written is not foreseen
  (`perform_foretold`).
* A run after a run: the second step finds what the first has left. If the migration is
  idempotent, then a file that was changed has nothing left to change, and a file whose copy
  could not be written still has none (`perform_again`).
-/

namespace CodeMigration

/-! ### A dry run and a real one -/

/-- The run with its results written, or only told. -/
def Run.withDryRun (run : Run) (dryRun : Bool) : Run :=
  { run with writer := { run.writer with dryRun := dryRun } }

/-- The entry of a dry run foretells the one of a real run over the same disk. -/
structure Writer.Foretells (writer : Writer) (disk : Disk) (foretold actual : FileReport) :
    Prop where
  path : actual.path = foretold.path
  appliedRules : actual.appliedRules = foretold.appliedRules
  /-- The entries agree, or a change that was foretold fails. -/
  agrees : actual.status = foretold.status ∧ actual.diff = foretold.diff ∧
      actual.error = foretold.error ∨
    foretold.status = .changed ∧ actual.status = .failed
  /-- It fails just if a copy is wanted and cannot be written. -/
  failed_iff : actual.status = .failed ↔
    foretold.status = .changed ∧ (writer.fault? disk foretold.path).isSome
  /-- A dry run makes no copy. -/
  noCopy : foretold.backup = none
  copy : actual.backup = if actual.status = .changed then writer.copyLeft foretold.path else none

/-- The entry of a file when a second run looks at it: one that was changed needs no change. -/
def FileReport.again (file : FileReport) : FileReport :=
  if file.status = .changed then { path := file.path, status := .skipped } else file

theorem FileReport.status_again (file : FileReport) : file.again.status ≠ .changed := by
  unfold again
  split
  · simp
  · assumption

namespace Run

variable {run : Run} {disk : Disk} {path : Path} {paths : List Path}

theorem foretells_process (hplain : path.IsPlain) (hsuffix : IsNameSuffix run.writer.suffix)
    (disk : Disk) : run.writer.Foretells disk ((run.withDryRun true).process disk path).2
      ((run.withDryRun false).process disk path).2 := by
  have hdry : (run.withDryRun true).process disk path = _ := process_eq hplain hsuffix
  have hreal : (run.withDryRun false).process disk path = _ := process_eq hplain hsuffix
  rw [hdry, hreal]
  -- What is read and what goes wrong with the copy is the same for both.
  have hfault : ∀ dryRun, (run.withDryRun dryRun).writer.fault? disk path =
      run.writer.fault? disk path := fun _ => rfl
  rw [hfault, hfault]
  unfold verdict
  cases disk.read path with
  | error cause => constructor <;> simp
  | ok text =>
      dsimp only [withDryRun]
      cases hchanged : (run.migration.migrate text).changed with
      | false => constructor <;> simp
      | true =>
          cases hwrite : run.writer.fault? disk path with
          | some cause => constructor <;> simp [changedFile, hwrite]
          | none => constructor <;> simp [changedFile, hwrite, Writer.copyLeft, Writer.backupPath]

/-- A dry run over independent files changes nothing and tells of each file what a real run
makes of it, as long as its copy can be written. -/
theorem perform_foretold (run : Run) (startedAt later : TimeStamp) (disk : Disk)
    (hi : Independent run.writer.suffix paths) :
    ((run.withDryRun true).perform startedAt disk paths).1 = disk ∧
    ((run.withDryRun true).perform startedAt disk paths).2.files.map (·.path) = paths ∧
    List.Forall₂ (run.writer.Foretells disk)
      ((run.withDryRun true).perform startedAt disk paths).2.files
      ((run.withDryRun false).perform later disk paths).2.files := by
  have hdry : Independent (run.withDryRun true).writer.suffix paths := hi
  have hreal : Independent (run.withDryRun false).writer.suffix paths := hi
  rw [files_perform, files_perform, files_processAll hdry, files_processAll hreal]
  refine ⟨?_, ?_, ?_⟩
  · rcases (run.withDryRun true).processAll_cases disk paths with hsame | ⟨hreal, -⟩
    · exact hsame
    · cases hreal
  · simp [Function.comp_def, path_process]
  · rw [List.forall₂_map_left_iff, List.forall₂_map_right_iff, List.forall₂_same]
    intro path hpath
    exact foretells_process (hi.plain path hpath) hi.named disk

/-- Of three files one is changed, one fails because a directory stands where its copy should
go, and one is not there. -/
theorem perform_foretold_three_files :
    let run : Run := ⟨NamedExports.migration, {}, true⟩
    let paths : List Path := ["a.ts", "b.ts", "c.ts"]
    let disk : Disk := ⟨[(["a.ts"], .file (.text "export default class A".toList)),
      (["b.ts"], .file (.text "export default class B".toList)), (["b.ts.backup"], .directory)], []⟩
    Independent run.writer.suffix paths ∧
      ((run.withDryRun true).perform {} disk paths).2.files.map (·.status) =
        [.changed, .changed, .notFound] ∧
      ((run.withDryRun false).perform {} disk paths).2.files.map (·.status) =
        [.changed, .failed, .notFound] ∧
      List.Forall₂ (run.writer.Foretells disk)
        ((run.withDryRun true).perform {} disk paths).2.files
        ((run.withDryRun false).perform {} disk paths).2.files := by
  intro run paths disk
  have hi : Independent run.writer.suffix paths := ⟨by decide, by decide, by decide, by decide⟩
  exact ⟨hi, by decide +kernel, by decide +kernel, (run.perform_foretold {} {} disk hi).2.2⟩

/-! ### A file after a run -/

theorem kind?_processAll (hsuffix : IsNameSuffix run.writer.suffix)
    (hplain : ∀ path ∈ paths, path.IsPlain) {place : Place}
    (hplace : ∀ path ∈ paths, place ≠ disk.placeOf (run.writer.backupPath path)) :
    (run.processAll disk paths).1.kind? place = disk.kind? place := by
  induction paths generalizing disk with
  | nil => rfl
  | cons first paths ih =>
      have hfirst := hplain first List.mem_cons_self
      rw [processAll_cons]
      dsimp only
      rw [ih fun path hpath => hplain path (List.mem_cons_of_mem first hpath)]
      · exact kind?_process hfirst hsuffix (hplace first List.mem_cons_self)
      · intro path hpath
        rw [placeOf_process hsuffix hfirst]
        exact hplace path (List.mem_cons_of_mem first hpath)

/-- After a run the step for a file sees what it would see if the file had been the only one. -/
theorem sameSight_processAll (hi : Independent run.writer.suffix paths) (hpath : path ∈ paths)
    (disk : Disk) :
    SameSight run.writer (run.process disk path).1 (run.processAll disk paths).1 path := by
  have hplain := hi.plain path hpath
  have hhome : ∀ other, (run.process disk path).1.placeOf other = disk.placeOf other :=
    placeOf_process hi.named hplain
  have hkind : ∀ above, above <+: disk.placeOf path →
      (run.process disk path).1.kind? above = (run.processAll disk paths).1.kind? above := by
    intro above habove
    have hne : ∀ other ∈ paths, above ≠ disk.placeOf (run.writer.backupPath other) := by
      intro other hother heq
      exact hi.not_prefix hpath hother disk (heq ▸ habove)
    rw [kind?_process hplain hi.named (hne path hpath), kind?_processAll hi.named hi.plain hne]
  refine ⟨⟨?_, ?_⟩, ?_, ?_⟩
  · rw [home_process hplain hi.named, ← (sameDirectories_processAll hi.named hi.plain disk).home]
  · intro above habove _
    exact hkind above (by rwa [hhome] at habove)
  · rw [hhome, node?_processAll_of_mem hi hpath disk (.inl rfl)]
  · rw [hhome, node?_processAll_of_mem hi hpath disk (.inr rfl)]

/-- A run that finds nothing to store leaves the disk as it is. -/
theorem processAll_of_stores?_eq_none (hsuffix : IsNameSuffix run.writer.suffix)
    (hplain : ∀ path ∈ paths, path.IsPlain) (hnone : ∀ path ∈ paths, run.stores? disk path = none) :
    run.processAll disk paths = (disk, paths.map fun path => (run.process disk path).2) := by
  induction paths with
  | nil => rfl
  | cons first paths ih =>
      have hsame : (run.process disk first).1 = disk := by
        rw [process_eq (hplain first List.mem_cons_self) hsuffix, hnone first List.mem_cons_self]
      rw [processAll_cons, hsame, ih (fun path hpath => hplain path (List.mem_cons_of_mem _ hpath))
        fun path hpath => hnone path (List.mem_cons_of_mem _ hpath)]
      rfl

/-! ### A run after a run -/

section

variable (hidem : ∀ text,
    (run.migration.migrate (run.migration.migrate text).after).changed = false)
  (hreal : run.writer.dryRun = false)

include hidem hreal

/-- A second step for a file has nothing to store. It records a file that was changed as one
that needs no change, and any other as before. -/
theorem process_process (hplain : path.IsPlain) (hsuffix : IsNameSuffix run.writer.suffix)
    (disk : Disk) :
    run.stores? (run.process disk path).1 path = none ∧
      (run.process (run.process disk path).1 path).2 = (run.process disk path).2.again := by
  cases hstores : run.stores? disk path with
  | none =>
      have hsame : (run.process disk path).1 = disk := by
        rw [process_eq hplain hsuffix, hstores]
      have hstatus : (run.process disk path).2.status ≠ .changed := by
        intro hchanged
        obtain ⟨outcome, hsome⟩ := exists_stores?_of_status hplain hsuffix hreal hchanged
        rw [hstores] at hsome
        cases hsome
      rw [hsame, hstores, FileReport.again, if_neg hstatus]
      exact ⟨rfl, rfl⟩
  | some outcome =>
      obtain ⟨text, hread, rfl, -⟩ := stores?_eq_some hstores
      -- The file now holds what the migration made of it, and that is left alone.
      have hagain : (run.process disk path).1.read path =
          .ok (run.migration.migrate text).after := by
        refine (sameDirectories_process hplain hsuffix disk).read_eq_ok
          (hplain.locate_of_read hread) ?_
        rw [node?_process hplain hsuffix, hstores]
        exact if_pos rfl
      have hverdict : ∀ fault, run.verdict path (.ok (run.migration.migrate text).after) fault =
          (none, { path := path, status := .skipped }) := by
        intro fault
        simp [verdict, hidem text]
      have hsecond : run.process (run.process disk path).1 path = _ := process_eq hplain hsuffix
      rw [FileReport.again, if_pos (status_of_stores? hplain hsuffix hstores), path_process,
        hsecond, stores?, hagain, hverdict]
      exact ⟨rfl, rfl⟩

theorem processAll_processAll (hi : Independent run.writer.suffix paths) (disk : Disk) :
    run.processAll (run.processAll disk paths).1 paths =
      ((run.processAll disk paths).1, (run.processAll disk paths).2.map FileReport.again) := by
  have hnone : ∀ path ∈ paths, run.stores? (run.processAll disk paths).1 path = none := by
    intro path hpath
    have hplain := hi.plain path hpath
    rw [(sameSight_processAll hi hpath disk).stores?_eq hplain hi.named]
    exact (process_process hidem hreal hplain hi.named disk).1
  rw [processAll_of_stores?_eq_none hi.named hi.plain hnone, files_processAll hi, List.map_map]
  refine congrArg (Prod.mk _) (List.map_congr_left ?_)
  intro path hpath
  have hplain := hi.plain path hpath
  rw [(sameSight_processAll hi hpath disk).process_snd hplain hi.named]
  exact (process_process hidem hreal hplain hi.named disk).2

end

/-- No file that is listed is the copy of another, so every copy stays. -/
theorem recoverable_of_independent (hi : Independent run.writer.suffix paths)
    (hkeep : run.writer.mode = .keep) (hreal : run.writer.dryRun = false) (startedAt : TimeStamp)
    (disk : Disk) : run.Recoverable startedAt disk paths := by
  have hkeeps : run.KeepsCopies paths := ⟨hkeep, hi.named, hi.plain, hi.nodup⟩
  refine hkeeps.recoverable_of_unharmed hreal ?_
  intro path hover
  have hfile := hover.listed.subset List.mem_cons_self
  have hcopy := hover.listed.subset (List.mem_cons_of_mem path List.mem_cons_self)
  exact absurd List.prefix_rfl (hi.not_prefix hcopy hfile disk)

/-- After a run over independent files, a second one with an idempotent migration changes no
file and leaves the disk just as it is. It tells of each file what the first told, but for the
files that were changed. Copies that the first has kept still hold the text from before it. -/
theorem perform_again (run : Run) (startedAt later : TimeStamp) (disk : Disk)
    (hidem : ∀ text, (run.migration.migrate (run.migration.migrate text).after).changed = false)
    (hi : Independent run.writer.suffix paths) :
    let real := run.withDryRun false
    let first := real.perform startedAt disk paths
    let second := real.perform later first.1 paths
    second.1 = first.1 ∧ second.2.files = first.2.files.map FileReport.again ∧
      (∀ file ∈ second.2.files, file.status ≠ .changed) ∧
      (run.writer.mode = .keep → ∀ path, RecordsChange first.2.files path →
        ∃ text, disk.read path = .ok text ∧
          second.1.read (run.writer.backupPath path) = .ok text) := by
  intro real first second
  have hsame : real.migration = run.migration := rfl
  have hi : Independent real.writer.suffix paths := hi
  rw [← hsame] at hidem
  have hboth := processAll_processAll hidem rfl hi disk
  have hdisk : second.1 = first.1 := by
    show (real.processAll (real.processAll disk paths).1 paths).1 = (real.processAll disk paths).1
    rw [hboth]
  have hfiles : second.2.files = first.2.files.map FileReport.again := by
    rw [files_perform, files_perform]
    show (real.processAll (real.processAll disk paths).1 paths).2 = _
    rw [hboth]
  refine ⟨hdisk, hfiles, ?_, ?_⟩
  · intro file hfile
    rw [hfiles] at hfile
    obtain ⟨former, -, rfl⟩ := List.mem_map.1 hfile
    exact former.status_again
  · intro hkeep path hchange
    have hcopies : real.Recoverable startedAt disk paths :=
      recoverable_of_independent hi hkeep rfl startedAt disk
    rw [hdisk]
    exact hcopies path hchange

/-- A migration that wraps calls is idempotent. Of two files it changes the first, and fails
with the second, both times. -/
theorem perform_again_two_files :
    let run : Run := ⟨⟨"wrap", "", [(TypedClient.callSite {}).toRule], []⟩, {}, false⟩
    let paths : List Path := ["a.ts", "b.ts"]
    let disk : Disk := ⟨[(["a.ts"], .file (.text "let x = createClient()".toList)),
      (["b.ts"], .file (.text "let y = createClient()".toList)), (["b.ts.backup"], .directory)], []⟩
    let first := (run.withDryRun false).perform {} disk paths
    (∀ text, (run.migration.migrate (run.migration.migrate text).after).changed = false) ∧
      Independent run.writer.suffix paths ∧ run.writer.mode = .keep ∧
      first.2.files.map (·.status) = [.changed, .failed] ∧
      ((run.withDryRun false).perform {} first.1 paths).1 = first.1 ∧
      ((run.withDryRun false).perform {} first.1 paths).2.files.map (·.status) =
        [.skipped, .failed] := by
  intro run paths disk first
  have hidem : ∀ text,
      (run.migration.migrate (run.migration.migrate text).after).changed = false := by
    intro text
    rw [← Bool.not_eq_true, Migration.changed_migrate_iff]
    intro ⟨rule, hrule, hfires⟩
    obtain rfl := List.mem_singleton.1 hrule
    have hafter : (run.migration.migrate text).after = (TypedClient.callSite {}).toRule.run text :=
      runRules_cons_fst _ [] text
    rw [hafter, TypedClient.fires_run_callSite TypedClient.wellNamed_default] at hfires
    cases hfires
  have hi : Independent run.writer.suffix paths := ⟨by decide, by decide, by decide, by decide⟩
  obtain ⟨hdisk, hfiles, -⟩ := run.perform_again {} {} disk hidem hi
  have hfirst : first.2.files.map (·.status) = [.changed, .failed] := by decide +kernel
  refine ⟨hidem, hi, rfl, hfirst, hdisk, ?_⟩
  rw [hfiles]
  decide +kernel

end Run

end CodeMigration
