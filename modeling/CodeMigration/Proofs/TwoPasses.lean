import CodeMigration.Proofs.Layouts
import CodeMigration.Proofs.MatcherRoom

/-!
# CodeMigration.Proofs.TwoPasses

The two passes of the migration to named exports over a whole project. The first pass goes over
the files that are not left to the framework. The second one goes over all files of the project
that the first has not listed; they are chosen after the first pass, which may have made new files
(copies) and taken others away.

No file is in the report twice, whatever the first pass does (`distinct_convertExports`). If it
leaves no copies, then the files that can be chosen stay the same, and the report lists all of
them, those of the framework last (`paths_convertExports_of_quiet`).
-/

namespace CodeMigration

theorem Run.paths_perform (run : Run) (startedAt : TimeStamp) (disk : Disk) (paths : List Path) :
    (run.perform startedAt disk paths).2.files.map (·.path) = paths := by
  rw [files_perform]
  induction paths generalizing disk with
  | nil => rfl
  | cons path paths ih => rw [processAll_cons, List.map_cons, path_process, ih]

namespace RunPlan

/-! ### The files of both passes -/

variable {plan : RunPlan} {disk : Disk}

/-- The run of the first pass. -/
def firstPass (plan : RunPlan) (disk : Disk) : Run :=
  plan.runOf (NamedExports.fullMigration (plan.modules disk))

/-- The disk that the first pass leaves. -/
def afterFirst (plan : RunPlan) (disk : Disk) : Disk :=
  ((plan.firstPass disk).processAll disk plan.paths).1

/-- There is a second pass if any module changes. -/
theorem isEmpty_importers_iff :
    (plan.runOf (NamedExports.importersMigration (plan.modules disk))).migration.rules.isEmpty =
      true ↔ plan.modules disk = [] := by
  show (NamedExports.importersRules (plan.modules disk)).isEmpty = true ↔ _
  unfold NamedExports.importersRules
  cases plan.modules disk <;> simp

/-- The second pass lists the files that the first has not listed, if any module changes. -/
theorem paths_convertExports (plan : RunPlan) (startedAt : TimeStamp) (disk : Disk) :
    (plan.convertExports startedAt disk).2.files.map (·.path) =
      plan.paths ++ if plan.modules disk = [] then [] else plan.others (plan.afterFirst disk) := by
  unfold convertExports
  dsimp only
  by_cases hmodules : plan.modules disk = []
  · rw [if_pos (isEmpty_importers_iff.2 hmodules), if_pos hmodules, Run.paths_perform,
      List.append_nil]
  · rw [if_neg (mt isEmpty_importers_iff.1 hmodules), if_neg hmodules, RunReport.files_merge,
      List.map_append, Run.paths_perform, Run.paths_perform]
    rfl

theorem components_ne_of_mem_others {path : Path} (h : path ∈ plan.others disk) :
    ∀ listed ∈ plan.paths, listed.components ≠ path.components := by
  have hnot := (List.mem_filter.1 h).2
  intro listed hlisted heq
  simp only [Bool.not_eq_true', List.any_eq_false] at hnot
  exact hnot listed hlisted (by simp [Path.same, heq])

/-- No file is listed twice if the first pass lists none twice. -/
theorem distinct_convertExports (htree : disk.IsTree)
    (hpaths : (plan.paths.map Path.components).Nodup) (startedAt : TimeStamp) :
    ((plan.convertExports startedAt disk).2.files.map (·.path.components)).Nodup := by
  have hmap : (plan.convertExports startedAt disk).2.files.map (·.path.components) =
      ((plan.convertExports startedAt disk).2.files.map (·.path)).map Path.components := by
    rw [List.map_map]
    rfl
  rw [hmap, paths_convertExports, List.map_append]
  split
  · simpa using hpaths
  · -- Whatever the first pass leaves is a tree again.
    have hafter : (plan.afterFirst disk).IsTree := Disk.stable_isTree.processAll _ _ htree
    have hselect : ((plan.everything.select (plan.afterFirst disk)).map Path.components).Nodup := by
      rw [Selector.select_eq]
      exact (Selector.listed_chosen hafter _).distinct_join _
    refine List.nodup_append.2 ⟨hpaths, ?_, ?_⟩
    · exact hselect.sublist (List.filter_sublist.map _)
    · intro first hfirst second hsecond
      obtain ⟨listed, hlisted, rfl⟩ := List.mem_map.1 hfirst
      obtain ⟨path, hpath, rfl⟩ := List.mem_map.1 hsecond
      exact components_ne_of_mem_others hpath listed hlisted

/-! ### All files of the project -/

/-- The plan lists the files of the project that none of the globs matches. -/
structure LeavesOut (plan : RunPlan) (framework : List Glob) (disk : Disk) : Prop where
  root : plan.everything.root = plan.project
  paths : plan.paths = (plan.everything.excluding framework).select disk

variable {framework : List Glob}

theorem LeavesOut.paths_eq (h : plan.LeavesOut framework disk) (htree : disk.IsTree) :
    plan.paths = ((plan.everything.chosen disk).filter
      fun path => !Selector.anyMatch framework path).map plan.project.join := by
  rw [h.paths, Selector.select_eq, Selector.chosen_excluding htree, ← h.root]
  rfl

/-- The files that are not listed are those that a glob matches. -/
theorem LeavesOut.others_eq (h : plan.LeavesOut framework disk) (htree : disk.IsTree) :
    plan.others disk = ((plan.everything.chosen disk).filter
      fun path => Selector.anyMatch framework path).map plan.project.join := by
  have hlisted := Selector.listed_chosen htree plan.everything
  unfold others
  rw [Selector.select_eq, h.root, List.filter_map]
  -- Both sides filter the same files, so it is enough to compare the conditions.
  refine congrArg _ (List.filter_congr ?_)
  intro path hpath
  rw [h.paths_eq htree, Function.comp_apply, Bool.eq_iff_iff, Bool.not_eq_true', ← Bool.not_eq_true]
  simp only [List.any_map, List.any_eq_true, List.mem_filter, Function.comp_apply, Path.same,
    beq_iff_eq, Bool.not_eq_true']
  constructor
  · intro hnone
    by_contra hmatch
    exact hnone ⟨path, ⟨hpath, by simpa using hmatch⟩, rfl⟩
  · -- A listed file with the same components below the root is the file itself.
    intro hmatch ⟨other, ⟨hother, hfree⟩, heq⟩
    rw [hlisted.components_join hpath, hlisted.components_join hother] at heq
    rw [hlisted.eq_of_components hpath hother (List.append_cancel_left heq), hfree] at hmatch
    cases hmatch

/-- What is chosen from the project stays the same if the first pass leaves no copies. -/
theorem LeavesOut.chosen_afterFirst (h : plan.LeavesOut framework disk) (htree : disk.IsTree)
    (hquiet : plan.writer.dryRun = true ∨ plan.writer.mode = .none) :
    plan.everything.chosen (plan.afterFirst disk) = plan.everything.chosen disk := by
  have hlisted := Selector.listed_chosen htree plan.everything
  -- Files are chosen by their extension, so no ignore file is written to.
  have hlayout : disk.SameLayout (plan.afterFirst disk) := by
    unfold afterFirst
    rw [h.paths_eq htree]
    refine Run.sameLayout_processAll hquiet ?_ ?_ _ _
    · intro path hpath
      exact hlisted.plain path (List.mem_filter.1 hpath).1
    · intro path hpath
      exact Selector.extension?_of_accepts
        (Selector.accepts_of_mem_chosen (List.mem_filter.1 hpath).1)
  unfold Selector.chosen
  rw [hlayout.scan_eq]

/-- If the first pass leaves no copies, the report lists all files that can be chosen from the
project, and those that a glob matches come last. -/
theorem LeavesOut.paths_convertExports_of_quiet (h : plan.LeavesOut framework disk)
    (htree : disk.IsTree) (hquiet : plan.writer.dryRun = true ∨ plan.writer.mode = .none)
    (hmodules : plan.modules disk ≠ []) (startedAt : TimeStamp) :
    (plan.convertExports startedAt disk).2.files.map (·.path) =
      ((plan.everything.chosen disk).filter (fun path => !Selector.anyMatch framework path) ++
        (plan.everything.chosen disk).filter fun path => Selector.anyMatch framework path).map
          plan.project.join := by
  have hselect : plan.others (plan.afterFirst disk) = plan.others disk := by
    unfold others
    rw [Selector.select_eq, Selector.select_eq, h.chosen_afterFirst htree hquiet]
  rw [paths_convertExports, if_neg hmodules, hselect, h.others_eq htree, h.paths_eq htree,
    List.map_append]

/-! ### Plans for the whole project -/

theorem eq_namedExports_of_load {settings : Settings} {migration : Migration}
    (h : Catalog.load NamedExports.name settings = .ok migration) :
    migration = NamedExports.migration := by
  rw [Catalog.load, if_neg (by decide), if_neg (by decide), if_pos rfl,
    Catalog.load_namedExports] at h
  cases hvalid : Catalog.validate settings with
  | error cause =>
      rw [hvalid] at h
      cases h
  | ok _ =>
      rw [hvalid] at h
      exact (Except.ok.inj h).symm

/-- A plan of named exports for a whole project lists the files that the globs of the framework
leave. -/
theorem exists_of_make_namedExports {invocation : Invocation} {options : RunOptions}
    (hmake : make invocation options disk = .ok plan)
    (hmigration : options.migration = NamedExports.name) (hpaths : options.paths = []) :
    ∃ settings, invocation.settings disk = .ok settings ∧
      Selector.ofSettings invocation.project settings.files [] = .ok plan.everything ∧
      plan.project = invocation.project ∧ plan.migration = NamedExports.migration ∧
      plan.writer = writerFor settings.backup options ∧
      ∃ framework, Selector.readGlobs NamedExports.frameworkFiles = .ok framework ∧
        plan.LeavesOut framework disk := by
  obtain ⟨settings, hsettings, migration, hload, selector, hselector, everything, heverything,
    rfl⟩ := make_eq_ok_iff.1 hmake
  rw [hmigration] at hload
  obtain rfl := eq_namedExports_of_load hload
  obtain ⟨all, framework, hall, hroot, hframework, rfl⟩ := Selector.ofSettings_eq_ok hselector
  obtain rfl : all = everything := Except.ok.inj (hall.symm.trans heverything)
  refine ⟨settings, hsettings, heverything, rfl, rfl, rfl, framework, hframework, hroot, ?_⟩
  simp [hpaths]

end RunPlan

namespace Session

/-- In a run of named exports over a whole project no file is in the report twice. If a module
changes and the run leaves no copies, then the report lists every file that the settings choose:
first those that are not left to the framework, in order, and then all others. -/
theorem report_namedExports {session : Session} {invocation : Invocation} {options : RunOptions}
    {disk ended : Disk} {plan : RunPlan} {report : RunReport} (htree : disk.IsTree)
    (hcommand : invocation.command = .run options)
    (hmigration : options.migration = NamedExports.name) (hpaths : options.paths = [])
    (hran : session.start invocation disk = .ran plan ended report) :
    (report.files.map (·.path.components)).Nodup ∧
    ∃ settings everything framework, invocation.settings disk = .ok settings ∧
      Selector.ofSettings invocation.project settings.files [] = .ok everything ∧
      Selector.readGlobs NamedExports.frameworkFiles = .ok framework ∧
      (plan.modules disk ≠ [] →
        options.dryRun = true ∨ (RunPlan.writerFor settings.backup options).mode = .none →
        report.files.map (·.path) =
          ((everything.chosen disk).filter (fun path => !Selector.anyMatch framework path) ++
            (everything.chosen disk).filter fun path => Selector.anyMatch framework path).map
              invocation.project.join) := by
  rcases session.start_cases invocation disk with
    ⟨reply, hdone, -⟩ | ⟨asked, made, hasked, hmake, hstart⟩
  · rw [hdone] at hran
    cases hran
  rw [hstart] at hran
  cases hran
  obtain rfl : asked = options := Command.run.inj (hasked.symm.trans hcommand)
  obtain ⟨settings, hsettings, heverything, hproject, hnamed, hwriter, framework, hframework,
    hleaves⟩ := RunPlan.exists_of_make_namedExports hmake hmigration hpaths
  have hcarry : plan.carryOut session.startedAt disk =
      plan.convertExports session.startedAt disk := by
    rw [RunPlan.carryOut, hnamed]
    exact if_pos rfl
  rw [hcarry]
  refine ⟨?_, settings, plan.everything, framework, hsettings, heverything, hframework, ?_⟩
  · refine RunPlan.distinct_convertExports htree ?_ _
    rw [hleaves.paths, Selector.select_eq]
    exact (Selector.listed_chosen htree _).distinct_join _
  · intro hmodules hquiet
    rw [← hproject]
    refine hleaves.paths_convertExports_of_quiet htree ?_ hmodules _
    rw [hwriter]
    exact hquiet

/-- A project with a page and a module that it imports. -/
def pageAndModule : Disk where
  nodes :=
    [(["src"], .directory), (["src", "app"], .directory),
     (["src", "app", "page.ts"], .file (.text "import B from '@/b'".toList)),
     (["src", "b.ts"], .file (.text "export default class B".toList))]

/-- Asks for named exports in the whole project, without copies and without a question. -/
def convertAll : RunOptions where
  migration := NamedExports.name
  noBackup := true
  assumeYes := true

theorem isTree_pageAndModule : pageAndModule.IsTree := ⟨by decide, by decide, by decide⟩

theorem settings_convertAll :
    Invocation.settings { command := .run convertAll } pageAndModule = .ok {} := by
  show Settings.loadProject pageAndModule (Invocation.project { command := .run convertAll }) = _
  rw [Settings.loadProject]
  exact if_neg (by decide +kernel)

theorem chosen_pageAndModule {everything : Selector}
    (h : Selector.ofSettings (Invocation.project { command := .run convertAll }) {} [] =
      .ok everything) :
    everything.chosen pageAndModule = [⟨"src/app/page.ts"⟩, ⟨"src/b.ts"⟩] := by
  have hfilter : (Selector.ofSettings (Invocation.project { command := .run convertAll }) {}
      []).toOption.map
        (fun selector => (pageAndModule.scan selector.root).filter selector.accepts) =
      some [⟨"src/app/page.ts"⟩, ⟨"src/b.ts"⟩] := by
    decide +kernel
  rw [h] at hfilter
  have htaken : (pageAndModule.scan everything.root).filter everything.accepts = _ :=
    Option.some.inj hfilter
  rw [Selector.chosen, htaken]
  exact List.mergeSort_of_pairwise (by decide)

/-- The page is left to the framework, and the module is not. -/
theorem anyMatch_pageAndModule {framework : List Glob}
    (h : Selector.readGlobs NamedExports.frameworkFiles = .ok framework) :
    Selector.anyMatch framework ⟨"src/app/page.ts"⟩ = true ∧
      Selector.anyMatch framework ⟨"src/b.ts"⟩ = false := by
  have hglobs : (Selector.readGlobs NamedExports.frameworkFiles).toOption.map (fun globs =>
      (Selector.anyMatch globs ⟨"src/app/page.ts"⟩, Selector.anyMatch globs ⟨"src/b.ts"⟩)) =
        some (true, false) := by
    decide +kernel
  rw [h] at hglobs
  exact Prod.mk.inj (Option.some.inj hglobs)

theorem exists_make_convertAll :
    ∃ plan, RunPlan.make { command := .run convertAll } convertAll pageAndModule = .ok plan := by
  refine RunPlan.exists_make_iff.2 ⟨{}, settings_convertAll, NamedExports.migration, rfl, ?_⟩
  obtain ⟨globs, hglobs⟩ : ∃ globs, Selector.readGlobs
      (({} : Settings).files.exclude ++ NamedExports.frameworkFiles) = .ok globs :=
    Selector.exists_readGlobs_iff.2 (by decide +kernel)
  exact ⟨_, by rw [Selector.ofSettings]; exact congrArg (· >>= _) hglobs⟩

section

variable {plan : RunPlan}
  (hmake : RunPlan.make { command := .run convertAll } convertAll pageAndModule = .ok plan)

include hmake

/-- The plan is carried out without asking. -/
theorem start_convertAll :
    start {} { command := .run convertAll } pageAndModule = .ran plan
      (plan.carryOut {} pageAndModule).1 (plan.carryOut {} pageAndModule).2 := by
  show run {} { command := .run convertAll } convertAll pageAndModule = _
  rw [run, hmake]
  show (if plan.needsConsent then _ else _) = _
  rw [RunPlan.needsConsent, (RunPlan.options_of_make hmake).1]
  rfl

theorem modules_convertAll : plan.modules pageAndModule ≠ [] := by
  obtain ⟨settings, hsame, heverything, hproject, -, -, framework, hframework, hleaves⟩ :=
    RunPlan.exists_of_make_namedExports hmake rfl rfl
  obtain rfl : settings = {} := Except.ok.inj (hsame.symm.trans settings_convertAll)
  have hpaths : plan.paths = [⟨"./src/b.ts"⟩] := by
    rw [hleaves.paths_eq isTree_pageAndModule, chosen_pageAndModule heverything, hproject]
    simp only [List.filter_cons, List.filter_nil, anyMatch_pageAndModule hframework]
    decide
  rw [RunPlan.modules, hpaths, hproject]
  decide +kernel

end

/-- The page is the first of the two files, but it is left to the framework, so it comes last. -/
theorem report_namedExports_page_last :
    pageAndModule.IsTree ∧ ∃ plan ended report,
      start {} { command := .run convertAll } pageAndModule = .ran plan ended report ∧
      plan.modules pageAndModule ≠ [] ∧
      report.files.map (·.path) = [⟨"./src/b.ts"⟩, ⟨"./src/app/page.ts"⟩] := by
  obtain ⟨plan, hmake⟩ := exists_make_convertAll
  have hstart := start_convertAll hmake
  have hmodules := modules_convertAll hmake
  obtain ⟨-, settings, everything, framework, hsame, heverything, hframework, hall⟩ :=
    report_namedExports isTree_pageAndModule rfl rfl rfl hstart
  obtain rfl : settings = {} := Except.ok.inj (hsame.symm.trans settings_convertAll)
  refine ⟨isTree_pageAndModule, plan, _, _, hstart, hmodules, ?_⟩
  rw [hall hmodules (.inr rfl), chosen_pageAndModule heverything]
  simp only [List.filter_cons, List.filter_nil, anyMatch_pageAndModule hframework]
  decide

end Session

end CodeMigration
