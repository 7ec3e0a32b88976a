import CodeMigration.Proofs.FailedCommands

/-!
# CodeMigration.Proofs.ReportCounts

What the numbers of a report say. A report keeps its counters beside its entries, and whatever is
done to it adds an entry together with its count, or touches neither. So each counter of a report
that can be made is the number of entries with its status (`RunReport.Reachable.counted`), and the
exit code of a run tells whether an entry is a failure (`Session.code_execute_of_ran`).

A follow-up report is recorded entry by entry, and its time is added up to the longest time that a
report can hold. Neither depends on how several reports are grouped (`RunReport.merge_assoc`).
-/

namespace CodeMigration

/-! ### Counters -/

namespace RunSummary

/-- The counter of a status. -/
def count (s : RunSummary) : FileStatus → Nat
  | .changed => s.changed
  | .skipped => s.skipped
  | .notFound => s.notFound
  | .failed => s.failed

theorem processed_record (s : RunSummary) (status : FileStatus) :
    (s.record status).processed = s.processed + 1 := by
  cases status <;> rfl

theorem count_record (s : RunSummary) (status other : FileStatus) :
    (s.record status).count other = s.count other + if status = other then 1 else 0 := by
  cases status <;> cases other <;> rfl

/-- The sum of the counters of all statuses. -/
def total (s : RunSummary) : Nat := s.changed + s.skipped + s.notFound + s.failed

theorem total_record (s : RunSummary) (status : FileStatus) :
    (s.record status).total = s.total + 1 := by
  cases status <;> simp only [record, total] <;> omega

end RunSummary

namespace RunReport

/-- The reports that can be made from empty ones. -/
inductive Reachable : RunReport → Prop
  /-- A report starts empty. -/
  | empty (migration : String) (dryRun : Bool) (startedAt : TimeStamp) :
    Reachable { migration := migration, dryRun := dryRun, startedAt := startedAt }
  /-- An entry is added. -/
  | record {report : RunReport} (file : FileReport) :
    Reachable report → Reachable (report.record file)
  /-- The time is set. -/
  | finish {report : RunReport} (time : TimeSpan) :
    Reachable report → Reachable (report.finish time)
  /-- A follow-up report is added, which can have follow-ups of its own. -/
  | merge {report other : RunReport} :
    Reachable report → Reachable other → Reachable (report.merge other)

/-- The counters agree with the entries. -/
structure Counted (report : RunReport) : Prop where
  /-- Every entry is counted. -/
  processed : report.summary.processed = report.files.length
  /-- Every counter is the number of entries with its status. -/
  count : ∀ status, report.summary.count status = (report.filesWithStatus status).length
  /-- No entry is on two counters or on none. -/
  total : report.summary.total = report.summary.processed

/-! ### What each step preserves -/

theorem filesWithStatus_record (report : RunReport) (file : FileReport) (status : FileStatus) :
    (report.record file).filesWithStatus status =
      report.filesWithStatus status ++ if file.status = status then [file] else [] := by
  by_cases hstatus : file.status = status <;> simp [filesWithStatus, record, hstatus]

namespace Counted

variable {report : RunReport} (h : report.Counted)

include h

theorem record (file : FileReport) : (report.record file).Counted where
  processed := by
    rw [RunReport.record, RunSummary.processed_record, h.processed, List.length_append]
    rfl
  count status := by
    have hcount : (report.record file).summary.count status =
        report.summary.count status + if file.status = status then 1 else 0 :=
      RunSummary.count_record _ _ _
    rw [hcount, h.count, filesWithStatus_record, List.length_append]
    split <;> rfl
  total := by
    rw [RunReport.record, RunSummary.total_record, RunSummary.processed_record, h.total]

/-- Time is not counted. -/
theorem withMillis (millis : Nat) : { report with durationMillis := millis }.Counted :=
  ⟨h.processed, h.count, h.total⟩

theorem foldl_record (files : List FileReport) : (files.foldl RunReport.record report).Counted := by
  induction files generalizing report with
  | nil => exact h
  | cons file files ih => exact ih (h.record file)

/-- There is a failure just if there is an entry of one. -/
theorem hasFailures_iff :
    report.hasFailures = true ↔
      ∃ file ∈ report.files, file.status = .notFound ∨ file.status = .failed := by
  have hpositive : ∀ status, 0 < report.summary.count status ↔
      ∃ file ∈ report.files, file.status = status := by
    intro status
    rw [h.count, List.length_pos_iff_exists_mem]
    simp [filesWithStatus]
  have hmissing := hpositive .notFound
  have hfailed := hpositive .failed
  rw [hasFailures, Bool.or_eq_true, decide_eq_true_iff, decide_eq_true_iff]
  simp only [and_or_left, exists_or]
  exact or_congr hmissing hfailed

end Counted

namespace Reachable

variable {report : RunReport}

theorem foldl_record (h : report.Reachable) (files : List FileReport) :
    (files.foldl RunReport.record report).Reachable := by
  induction files generalizing report with
  | nil => exact h
  | cons file files ih => exact ih (h.record file)

/-- The counters of a report agree with its entries. -/
theorem counted (h : report.Reachable) : report.Counted := by
  induction h with
  | empty migration dryRun startedAt => exact ⟨rfl, fun status => by cases status <;> rfl, rfl⟩
  | record file _ ih => exact ih.record file
  | finish time _ ih => exact ih.withMillis _
  | merge _ _ ih _ => exact (ih.foldl_record _).withMillis _

/-- A report does not hold a time that is too long for it. -/
theorem durationMillis_le (h : report.Reachable) : report.durationMillis ≤ maxMillis := by
  induction h with
  | empty migration dryRun startedAt => exact Nat.zero_le _
  | record file _ ih => exact ih
  | finish time _ _ => exact Nat.min_le_right _ _
  | merge _ _ _ _ => exact Nat.min_le_right _ _

end Reachable

/-! ### Several reports -/

theorem merge_eq (report other : RunReport) :
    report.merge other =
      { report with
        durationMillis := min (report.durationMillis + other.durationMillis) maxMillis
        summary := (other.files.map (·.status)).foldl RunSummary.record report.summary
        files := report.files ++ other.files } := by
  unfold merge
  rw [foldl_record]

/-- A bound on every partial sum is a bound on the sum of all. -/
theorem min_add_min_add (first second third bound : Nat) :
    min (min (first + second) bound + third) bound =
      min (first + min (second + third) bound) bound := by
  omega

/-- Reports can be added one by one or all those behind the first at once. -/
theorem merge_assoc (first second third : RunReport) :
    (first.merge second).merge third = first.merge (second.merge third) := by
  simp only [merge_eq, List.map_append, List.foldl_append, List.append_assoc, min_add_min_add]

/-- The numbers of a report say what its entries say, and follow-up reports can be added to it in
any grouping. -/
theorem counts_of_reachable {report : RunReport} (h : report.Reachable) :
    report.Counted ∧
    (report.hasFailures = true ↔
      ∃ file ∈ report.files, file.status = .notFound ∨ file.status = .failed) ∧
    report.durationMillis ≤ maxMillis ∧
    ∀ second third, second.Reachable → third.Reachable →
      (report.merge second).merge third = report.merge (second.merge third) :=
  ⟨h.counted, h.counted.hasFailures_iff, h.durationMillis_le,
    fun second third _ _ => merge_assoc report second third⟩

/-- A file that is missing after the longest time, and then two that change. -/
theorem counts_of_reachable_follow_ups :
    let started : RunReport := { migration := "named-exports", dryRun := false }
    let first := (started.record { path := "a.ts", status := .notFound }).finish ⟨maxMillis, 0⟩
    let second := (started.record { path := "b.ts", status := .changed }).finish ⟨0, 3000000⟩
    let third := started.record { path := "c.ts", status := .changed }
    first.Reachable ∧ second.Reachable ∧ third.Reachable ∧
      (first.merge second).merge third = first.merge (second.merge third) ∧
      ((first.merge second).merge third).summary = ⟨3, 2, 0, 1, 0⟩ ∧
      ((first.merge second).merge third).durationMillis = maxMillis := by
  intro started first second third
  have hstarted : started.Reachable := .empty _ _ _
  have hfirst : first.Reachable := (hstarted.record _).finish _
  have hsecond : second.Reachable := (hstarted.record _).finish _
  have hthird : third.Reachable := hstarted.record _
  obtain ⟨-, -, -, hgrouping⟩ := counts_of_reachable hfirst
  exact ⟨hfirst, hsecond, hthird, hgrouping second third hsecond hthird, by decide, by decide⟩

end RunReport

/-! ### Reports of commands -/

theorem Run.reachable_perform (run : Run) (startedAt : TimeStamp) (disk : Disk)
    (paths : List Path) : (run.perform startedAt disk paths).2.Reachable :=
  (RunReport.Reachable.empty _ _ _).foldl_record (run.processAll disk paths).2

theorem RunPlan.reachable_carryOut (plan : RunPlan) (startedAt : TimeStamp) (disk : Disk) :
    (plan.carryOut startedAt disk).2.Reachable := by
  rcases plan.carryOut_eq_or startedAt disk with ⟨run, -, hone⟩ | ⟨first, second, others, -, -, htwo⟩
  · rw [hone]
    exact Run.reachable_perform run startedAt disk plan.paths
  · rw [htwo]
    exact (Run.reachable_perform first _ _ _).merge (Run.reachable_perform second _ _ _)

theorem RunPlan.code_announce {plan : RunPlan} {disk : Disk} (hfree : ¬ plan.ReportStuck disk)
    (colours : Bool) (report : RunReport) :
    (plan.announce colours report disk).code = if report.hasFailures then 1 else 0 := by
  unfold announce
  cases houtput : plan.options.output with
  | none => rfl
  | some path =>
      dsimp only
      split
      · next hwrite => exact absurd ⟨path, _, houtput, Disk.write_eq_error hwrite⟩ hfree
      · rfl

namespace Session

/-- A run that can write its report ends with the code 1 if a file could not be read or written,
and with 0 if all files could. -/
theorem code_execute_of_ran {session : Session} {elapsed : TimeSpan} {invocation : Invocation}
    {disk ended : Disk} {plan : RunPlan} {report : RunReport}
    (hran : session.start invocation disk = .ran plan ended report)
    (hfree : ¬ plan.ReportStuck ended) :
    (session.execute elapsed invocation disk).code =
      if ∃ file ∈ report.files, file.status = .notFound ∨ file.status = .failed then 1 else 0 := by
  have hcounted : report.Counted := by
    rcases session.start_cases invocation disk with ⟨reply, hdone, -⟩ | ⟨_, _, -, -, hstart⟩
    · rw [hdone] at hran
      cases hran
    · rw [hstart] at hran
      cases hran
      exact (plan.reachable_carryOut session.startedAt disk).counted
  rw [execute, hran, finish, RunPlan.code_announce hfree]
  -- The time that is set at the end is no failure.
  exact if_congr hcounted.hasFailures_iff rfl rfl

end Session

end CodeMigration
