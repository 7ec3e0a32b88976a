import CodeMigration.Command.Execute
import CodeMigration.Proofs.FileRuns

/-!
# CodeMigration.Proofs.FailedCommands

Does a command that ends with an error leave the disk as it is? Most errors turn up while the
plan of a run is made, which changes nothing. What is left is the report: if it is to go to a
file, then it is written last, and by then the files are changed. An error there has the exit
code of a command that did nothing (`failsCleanly_iff`). A run cannot go wrong that way if the
report is printed, if it is a dry run, or if there is no file that it changes or fails to write.

The migration to named exports chooses files twice. The second choice is that of all files of
the project, and it cannot fail on its own (`exists_make_iff`).
-/

namespace CodeMigration

/-! ### Making a plan -/

namespace Selector

theorem readGlobs_cons (glob : String) (written : List String) :
    readGlobs (glob :: written) =
      match Glob.parse? false glob with
      | none => .error (.badGlob glob)
      | some first => (readGlobs written).map (first :: ·) := by
  unfold readGlobs
  rw [List.mapM_cons]
  cases Glob.parse? false glob <;> rfl

theorem exists_readGlobs_iff {written : List String} :
    (∃ globs, readGlobs written = .ok globs) ↔
      ∀ glob ∈ written, (Glob.parse? false glob).isSome := by
  induction written with
  | nil => simp [readGlobs, pure, Except.pure]
  | cons glob written ih =>
      rw [readGlobs_cons, List.forall_mem_cons, ← ih]
      cases Glob.parse? false glob with
      | none => simp
      | some first => cases readGlobs written <;> simp [Except.map]

/-- Globs of a migration can only make a choice fail. -/
theorem exists_ofSettings_nil {root : Path} {files : FileSettings} {extra : List String}
    {selector : Selector} (h : ofSettings root files extra = .ok selector) :
    ∃ everything, ofSettings root files [] = .ok everything := by
  have hreads : ∃ globs, readGlobs (files.exclude ++ extra) = .ok globs := by
    unfold ofSettings at h
    cases hglobs : readGlobs (files.exclude ++ extra) with
    | error cause =>
        rw [hglobs] at h
        cases h
    | ok globs => exact ⟨globs, rfl⟩
  have hfewer : ∃ globs, readGlobs (files.exclude ++ []) = .ok globs := by
    rw [exists_readGlobs_iff] at hreads ⊢
    intro glob hglob
    rw [List.append_nil] at hglob
    exact hreads glob (List.mem_append_left extra hglob)
  obtain ⟨globs, hglobs⟩ := hfewer
  unfold ofSettings
  rw [hglobs]
  exact ⟨_, rfl⟩

end Selector

namespace RunPlan

variable {invocation : Invocation} {options : RunOptions} {disk : Disk}

theorem orFail_bind_eq_ok_iff {ε α β : Type} {wrap : ε → CommandError} {result : Except ε α}
    {next : α → Except CommandError β} {value : β} :
    (orFail wrap result >>= next) = .ok value ↔ ∃ a, result = .ok a ∧ next a = .ok value := by
  cases result <;> simp [orFail, bind, Except.bind]

/-- What a plan is made of. -/
theorem make_eq_ok_iff {plan : RunPlan} :
    make invocation options disk = .ok plan ↔
      ∃ settings, invocation.settings disk = .ok settings ∧
      ∃ migration, Catalog.load options.migration settings = .ok migration ∧
      ∃ selector, Selector.ofSettings invocation.project settings.files migration.excludes =
        .ok selector ∧
      ∃ everything, Selector.ofSettings invocation.project settings.files [] = .ok everything ∧
        ⟨options, invocation.project, migration, if options.paths.isEmpty then selector.select disk
          else selector.resolve options.paths, everything, writerFor settings.backup options⟩ =
            plan := by
  unfold make
  simp only [orFail_bind_eq_ok_iff, pure, Except.pure, Except.ok.injEq]

theorem options_of_make {plan : RunPlan} (h : make invocation options disk = .ok plan) :
    plan.options = options ∧ plan.writer.dryRun = options.dryRun := by
  obtain ⟨settings, -, migration, -, selector, -, everything, -, rfl⟩ := make_eq_ok_iff.1 h
  exact ⟨rfl, rfl⟩

/-- A plan can be made if the settings, the migration and the choice of files are in order. -/
theorem exists_make_iff :
    (∃ plan, make invocation options disk = .ok plan) ↔
      ∃ settings, invocation.settings disk = .ok settings ∧
      ∃ migration, Catalog.load options.migration settings = .ok migration ∧
      ∃ selector, Selector.ofSettings invocation.project settings.files migration.excludes =
        .ok selector := by
  simp only [make_eq_ok_iff]
  constructor
  · intro ⟨plan, settings, hsettings, migration, hmigration, selector, hselector, _⟩
    exact ⟨settings, hsettings, migration, hmigration, selector, hselector⟩
  · intro ⟨settings, hsettings, migration, hmigration, selector, hselector⟩
    obtain ⟨everything, heverything⟩ := Selector.exists_ofSettings_nil hselector
    exact ⟨_, settings, hsettings, migration, hmigration, selector, hselector, everything,
      heverything, rfl⟩

/-! ### Carrying it out -/

/-- A plan is carried out in one pass, or in two, of which the second starts on the disk that the
first one leaves. -/
theorem carryOut_eq_or (plan : RunPlan) (startedAt : TimeStamp) (disk : Disk) :
    (∃ run : Run, run.writer = plan.writer ∧
      plan.carryOut startedAt disk = run.perform startedAt disk plan.paths) ∨
    ∃ (first second : Run) (others : List Path),
      first.writer = plan.writer ∧ second.writer = plan.writer ∧
      plan.carryOut startedAt disk =
        ((second.perform startedAt (first.perform startedAt disk plan.paths).1 others).1,
          (first.perform startedAt disk plan.paths).2.merge
            (second.perform startedAt (first.perform startedAt disk plan.paths).1 others).2) := by
  unfold carryOut
  split
  · unfold convertExports
    dsimp only
    split
    · exact .inl ⟨_, rfl, rfl⟩
    · exact .inr ⟨_, _, _, rfl, rfl, rfl⟩
  · exact .inl ⟨_, rfl, rfl⟩

/-- Only files that are recorded as changed or failed change the disk, and none in a dry run. -/
theorem carryOut_cases (plan : RunPlan) (startedAt : TimeStamp) (disk : Disk) :
    (plan.carryOut startedAt disk).1 = disk ∨
    (plan.writer.dryRun = false ∧ ∃ file ∈ (plan.carryOut startedAt disk).2.files,
      file.status = .changed ∨ file.status = .failed) := by
  have hperform : ∀ run : Run, run.writer = plan.writer → ∀ disk paths,
      (run.perform startedAt disk paths).1 = disk ∨
      (plan.writer.dryRun = false ∧ ∃ file ∈ (run.perform startedAt disk paths).2.files,
        file.status = .changed ∨ file.status = .failed) := by
    intro run hwriter disk paths
    rw [Run.files_perform, ← hwriter]
    exact run.processAll_cases disk paths
  rcases plan.carryOut_eq_or startedAt disk with
    ⟨run, hwriter, hone⟩ | ⟨first, second, others, hfirst, hsecond, htwo⟩
  · rw [hone]
    exact hperform run hwriter disk plan.paths
  · rw [htwo, RunReport.files_merge]
    rcases hperform first hfirst disk plan.paths with hsame | ⟨hdry, file, hfile, hstatus⟩
    · rw [hsame]
      rcases hperform second hsecond disk others with hagain | ⟨hdry, file, hfile, hstatus⟩
      · exact .inl hagain
      · exact .inr ⟨hdry, file, List.mem_append_right _ hfile, hstatus⟩
    · exact .inr ⟨hdry, file, List.mem_append_left _ hfile, hstatus⟩

/-! ### Telling about it -/

/-- The report should go to a file that cannot be written. -/
def ReportStuck (plan : RunPlan) (disk : Disk) : Prop :=
  ∃ path cause, plan.options.output = some path ∧ ∀ chars, disk.write path chars = .error cause

/-- The report is told without an error unless it is stuck, and then nothing more is done. -/
theorem announce_cases (plan : RunPlan) (colours : Bool) (report : RunReport) (disk : Disk) :
    (¬ plan.ReportStuck disk ∧ (plan.announce colours report disk).code < 2) ∨
    (plan.ReportStuck disk ∧ (plan.announce colours report disk).code = 2 ∧
      (plan.announce colours report disk).disk = disk) := by
  have hcode : (if report.hasFailures then 1 else 0) < 2 := by
    split <;> decide
  unfold announce ReportStuck
  cases houtput : plan.options.output with
  | none => exact .inl ⟨by simp, hcode⟩
  | some path =>
      dsimp only
      cases hwrite : disk.write path (plan.options.format.showReport colours report).toList with
      | error cause => exact .inr ⟨⟨path, cause, rfl, Disk.write_eq_error hwrite⟩, rfl, rfl⟩
      | ok after =>
          refine .inl ⟨?_, hcode⟩
          intro ⟨other, cause, hother, herror⟩
          cases hother
          rw [herror] at hwrite
          cases hwrite

end RunPlan

/-! ### Commands -/

namespace Session

/-- If the command ends with an error, the disk is as it was before. -/
def FailsCleanly (session : Session) (elapsed : TimeSpan) (invocation : Invocation)
    (disk : Disk) : Prop :=
  (session.execute elapsed invocation disk).code = 2 ∨
    (session.execute elapsed invocation disk).code = 3 →
      (session.execute elapsed invocation disk).disk.SameAs disk

/-- A run has changed the disk, and then its report is stuck. -/
structure LosesReport (session : Session) (invocation : Invocation) (disk : Disk) (plan : RunPlan)
    (ended : Disk) (report : RunReport) : Prop where
  command : invocation.command = .run plan.options
  work : session.start invocation disk = .ran plan ended report
  real : plan.options.dryRun = false
  file : ∃ file ∈ report.files, file.status = .changed ∨ file.status = .failed
  changed : ¬ ended.SameAs disk
  stuck : plan.ReportStuck ended

/-- A reply that tells of an error comes with the disk as it was. -/
def CleanReply (disk : Disk) (reply : Reply) : Prop :=
  reply.code = 2 ∨ reply.code = 3 → reply.disk = disk

theorem cleanReply_of_disk_eq {disk : Disk} {reply : Reply} (h : reply.disk = disk) :
    CleanReply disk reply := fun _ => h

theorem cleanReply_of_code_eq {disk : Disk} {reply : Reply} (h : reply.code = 0) :
    CleanReply disk reply := by
  intro hcode
  omega

theorem cleanReply_list (session : Session) (invocation : Invocation) (format : OutputFormat)
    (disk : Disk) : CleanReply disk (session.list invocation format disk) := by
  refine cleanReply_of_disk_eq ?_
  unfold list
  split
  · rfl
  · split <;> rfl

/-- Settings that cannot be written, or are there already, are left alone. -/
theorem cleanReply_init (session : Session) (invocation : Invocation) (force : Bool)
    (disk : Disk) : CleanReply disk (session.init invocation force disk) := by
  unfold init
  dsimp only
  split
  · exact cleanReply_of_disk_eq rfl
  · split
    · exact cleanReply_of_disk_eq rfl
    · exact cleanReply_of_code_eq rfl

theorem cleanReply_manual (directory : Path) (disk : Disk) :
    CleanReply disk (manual directory disk) := by
  unfold manual
  dsimp only
  split
  · exact cleanReply_of_disk_eq rfl
  · exact cleanReply_of_code_eq rfl

/-- A run without a plan, or without the consent that it needs, does nothing. -/
theorem run_cases (session : Session) (invocation : Invocation) (options : RunOptions)
    (disk : Disk) :
    (∃ reply, session.run invocation options disk = .done reply ∧ CleanReply disk reply) ∨
    ∃ plan, RunPlan.make invocation options disk = .ok plan ∧
      session.run invocation options disk = session.work plan disk := by
  unfold run
  cases hmake : RunPlan.make invocation options disk with
  | error cause => exact .inl ⟨_, rfl, cleanReply_of_disk_eq rfl⟩
  | ok plan =>
      dsimp only
      split
      · cases session.consent with
        | unavailable => exact .inl ⟨_, rfl, cleanReply_of_disk_eq rfl⟩
        | denied => exact .inl ⟨_, rfl, cleanReply_of_disk_eq rfl⟩
        | granted => exact .inr ⟨plan, rfl, rfl⟩
      · exact .inr ⟨plan, rfl, rfl⟩

/-- All that a command can do before it tells about it: either it is done, and has changed
nothing if that is an error, or it has carried out a plan. -/
theorem start_cases (session : Session) (invocation : Invocation) (disk : Disk) :
    (∃ reply, session.start invocation disk = .done reply ∧ CleanReply disk reply) ∨
    (∃ options plan, invocation.command = .run options ∧
      RunPlan.make invocation options disk = .ok plan ∧
      session.start invocation disk = .ran plan (plan.carryOut session.startedAt disk).1
        (plan.carryOut session.startedAt disk).2) := by
  unfold start
  cases invocation.command with
  | run options =>
      rcases session.run_cases invocation options disk with hdone | ⟨plan, hmake, hwork⟩
      · exact .inl hdone
      · exact .inr ⟨options, plan, rfl, hmake, hwork⟩
  | list format => exact .inl ⟨_, rfl, session.cleanReply_list invocation format disk⟩
  | init force => exact .inl ⟨_, rfl, session.cleanReply_init invocation force disk⟩
  | manual directory => exact .inl ⟨_, rfl, cleanReply_manual directory disk⟩

variable {session : Session} {invocation : Invocation} {disk : Disk}

/-- A command that is done has no report to lose. -/
theorem not_losesReport_of_done {reply : Reply} (h : session.start invocation disk = .done reply)
    (plan : RunPlan) (ended : Disk) (report : RunReport) :
    ¬ session.LosesReport invocation disk plan ended report := by
  intro hlost
  have hwork := hlost.work
  rw [h] at hwork
  cases hwork

/-- A report is lost just if it is stuck and the disk has changed. -/
theorem losesReport_iff {options : RunOptions} {plan : RunPlan}
    (hcommand : invocation.command = .run options)
    (hmake : RunPlan.make invocation options disk = .ok plan)
    (hstart : session.start invocation disk = .ran plan
      (plan.carryOut session.startedAt disk).1 (plan.carryOut session.startedAt disk).2) :
    (∃ plan ended report, session.LosesReport invocation disk plan ended report) ↔
      plan.ReportStuck (plan.carryOut session.startedAt disk).1 ∧
        ¬ (plan.carryOut session.startedAt disk).1.SameAs disk := by
  obtain ⟨rfl, hdry⟩ := RunPlan.options_of_make hmake
  constructor
  · intro ⟨other, ended, report, hlost⟩
    cases hstart.symm.trans hlost.work
    exact ⟨hlost.stuck, hlost.changed⟩
  · intro ⟨hstuck, hchanged⟩
    -- What has changed the disk is a file of the report.
    rcases plan.carryOut_cases session.startedAt disk with hsame | ⟨hreal, hfile⟩
    · rw [hsame] at hchanged
      exact absurd (.refl disk) hchanged
    · exact ⟨plan, _, _, hcommand, hstart, hdry.symm.trans hreal, hfile, hchanged, hstuck⟩

/-- A command that ends with an error has left the disk as it was, unless it is a run that has
changed files, or tried to, and cannot write its report. A plan fails only for its settings, for
its migration or for its first choice of files. -/
theorem failsCleanly_iff (session : Session) (elapsed : TimeSpan) (invocation : Invocation)
    (disk : Disk) :
    (session.FailsCleanly elapsed invocation disk ↔
      ¬ ∃ plan ended report, session.LosesReport invocation disk plan ended report) ∧
    ∀ options, (∃ plan, RunPlan.make invocation options disk = .ok plan) ↔
      ∃ settings, invocation.settings disk = .ok settings ∧
      ∃ migration, Catalog.load options.migration settings = .ok migration ∧
      ∃ selector, Selector.ofSettings invocation.project settings.files migration.excludes =
        .ok selector := by
  refine ⟨?_, fun options => RunPlan.exists_make_iff⟩
  unfold FailsCleanly execute
  rcases session.start_cases invocation disk with
    ⟨reply, hstart, hdone⟩ | ⟨options, plan, hcommand, hmake, hstart⟩
  · refine iff_of_true ?_ ?_
    · intro hcode
      rw [hstart] at hcode ⊢
      rw [finish, hdone hcode]
      exact .refl disk
    · intro ⟨plan, ended, report, hlost⟩
      exact not_losesReport_of_done hstart plan ended report hlost
  · rw [losesReport_iff hcommand hmake hstart, hstart]
    dsimp only [finish]
    rcases plan.announce_cases session.colours
        ((plan.carryOut session.startedAt disk).2.finish elapsed)
        (plan.carryOut session.startedAt disk).1 with ⟨hfree, hcode⟩ | ⟨hstuck, hcode, hdisk⟩
    · refine iff_of_true ?_ ?_
      · intro herror
        omega
      · intro hlost
        exact hfree hlost.1
    · rw [hdisk]
      constructor
      · intro hclean hlost
        exact hlost.2 (hclean (.inl hcode))
      · intro hkept _
        by_contra hchanged
        exact hkept ⟨hstuck, hchanged⟩

/-- The report cannot be written after the file was changed. -/
theorem not_failsCleanly_report_stuck :
    ¬ FailsCleanly {} {}
      { command := .run { migration := "named-exports", paths := ["a.ts"], assumeYes := true
                          output := some "missing/report.json" } }
      ⟨[(["a.ts"], .file (.text "export default class A".toList))], []⟩ := by
  intro hclean
  have hsame := (hclean (by decide +kernel)).2 ["a.ts"]
  revert hsame
  decide +kernel

end Session

end CodeMigration
