import CodeMigration.Migration.NamedExports
import CodeMigration.Proofs.FileRuns
import Mathlib.Data.List.Perm.Basic

/-!
# CodeMigration.Proofs.FileOrder

The order of the files makes no difference to a run. Each step sees the way to its file, the
file and its copy, and it changes at most the last two. If no file is the copy of another, and
none lies below the copy of another, then no step changes what another one sees
(`sameSight_process`), and so each file fares as if it were the only one
(`files_processAll`, `node?_processAll_of_mem`). What a run leaves behind can then be said
without the order of the files (`perform_perm`).
-/

namespace CodeMigration

/-! ### Independent files -/

/-- The files of the list have nothing to do with each other: they have different plain paths,
the suffix makes another name of a name, and no file is the copy of one of the files or lies
below such a copy. -/
structure Independent (suffix : String) (paths : List Path) : Prop where
  named : IsNameSuffix suffix
  plain : ∀ path ∈ paths, path.IsPlain
  nodup : paths.Nodup
  apart : ∀ path ∈ paths, ∀ other ∈ paths, path.relativeTo? (other.withSuffix suffix) = none

namespace Independent

variable {suffix : String} {paths : List Path}

theorem mono {others : List Path} (h : Independent suffix paths) (hsubset : others ⊆ paths)
    (hnodup : others.Nodup) : Independent suffix others :=
  ⟨h.named, fun path hpath => h.plain path (hsubset hpath), hnodup, fun path hpath other hother =>
    h.apart path (hsubset hpath) other (hsubset hother)⟩

theorem not_prefix (h : Independent suffix paths) {path other : Path} (hpath : path ∈ paths)
    (hother : other ∈ paths) (disk : Disk) :
    ¬ disk.placeOf (other.withSuffix suffix) <+: disk.placeOf path := by
  intro hbelow
  have hparts : Disk.parts (other.withSuffix suffix) <+: Disk.parts path :=
    (List.prefix_append_right_inj disk.home).1 hbelow
  have happart := h.apart path hpath other hother
  rw [Path.relativeTo?, ((h.plain other hother).withSuffix h.named).components_eq,
    (h.plain path hpath).components_eq,
    if_pos (List.isPrefixOf_iff_prefix.2 (hparts.map Component.name))] at happart
  cases happart

end Independent

/-! ### What a step sees -/

/-- A step sees the same on both disks. -/
structure SameSight (writer : Writer) (disk other : Disk) (path : Path) : Prop where
  way : Disk.SameWay disk other (disk.placeOf path)
  file : disk.node? (disk.placeOf path) = other.node? (disk.placeOf path)
  copy : disk.node? (disk.placeOf (writer.backupPath path)) =
    other.node? (disk.placeOf (writer.backupPath path))

/-- The way to the copy of a file is the way to the file. -/
theorem Disk.SameWay.withSuffix {disk other : Disk} {path : Path} {suffix : String}
    (h : SameWay disk other (disk.placeOf path)) (hslash : '/' ∉ suffix.toList) :
    SameWay disk other (disk.placeOf (path.withSuffix suffix)) := by
  obtain ⟨front, last, hparts, hlonger⟩ := exists_parts_withSuffix path suffix hslash
  unfold placeOf at *
  rw [hparts, ← List.append_assoc] at h
  rw [hlonger, ← List.append_assoc]
  refine ⟨h.home, ?_⟩
  intro above habove hne
  rcases List.prefix_concat_iff.1 habove with heq | hfront
  · exact absurd heq hne
  · refine h.kind above (hfront.trans (List.prefix_append _ _)) ?_
    intro heq
    have hlength := hfront.length_le
    rw [heq, List.length_append, List.length_singleton] at hlength
    omega

namespace SameSight

variable {run : Run} {disk other : Disk} {path : Path}

theorem fault?_eq {writer : Writer} (h : SameSight writer disk other path) (hplain : path.IsPlain)
    (hsuffix : IsNameSuffix writer.suffix) :
    writer.fault? disk path = writer.fault? other path := by
  have herror : disk.writeError? (writer.backupPath path) =
      other.writeError? (writer.backupPath path) :=
    Disk.writeError?_congr (hplain.withSuffix hsuffix) (h.way.withSuffix hsuffix.2) h.copy
  rw [Writer.fault?, Writer.fault?, herror]

variable (h : SameSight run.writer disk other path) (hplain : path.IsPlain)
  (hsuffix : IsNameSuffix run.writer.suffix)

include h hplain hsuffix

theorem process_snd : (run.process other path).2 = (run.process disk path).2 := by
  rw [Run.process_eq hplain hsuffix, Run.process_eq hplain hsuffix,
    hplain.read_congr h.way h.file, h.fault?_eq hplain hsuffix]

theorem stores?_eq : run.stores? other path = run.stores? disk path := by
  rw [Run.stores?, Run.stores?, hplain.read_congr h.way h.file, h.fault?_eq hplain hsuffix]

theorem node?_process {place : Place} (hplace : place = disk.placeOf path ∨
    place = disk.placeOf (run.writer.backupPath path)) :
    (run.process other path).1.node? place = (run.process disk path).1.node? place := by
  rw [Run.node?_process hplain hsuffix, Run.node?_process hplain hsuffix,
    h.stores?_eq hplain hsuffix]
  have hplaceOf : ∀ path, other.placeOf path = disk.placeOf path := by
    intro path
    rw [Disk.placeOf, Disk.placeOf, h.way.home]
  have hnode : other.node? place = disk.node? place := by
    rcases hplace with rfl | rfl
    · exact h.file.symm
    · exact h.copy.symm
  cases run.stores? disk path with
  | none => exact hnode
  | some outcome =>
      have hcopy : run.writer.copyNode? other path outcome =
          run.writer.copyNode? disk path outcome := by
        rw [Writer.copyNode?, Writer.copyNode?, hplaceOf, h.copy]
      simp only [hplaceOf, hcopy, hnode]

end SameSight

/-! ### Steps that do not meet -/

/-- Where one of the files and its copy are, there is neither another file nor its copy. -/
theorem Independent.apart_places {suffix : String} {paths : List Path}
    (h : Independent suffix paths) {path other : Path} (hpath : path ∈ paths)
    (hother : other ∈ paths) (hne : path ≠ other) (disk : Disk) {place : Place}
    (hplace : place = disk.placeOf path ∨ place = disk.placeOf (path.withSuffix suffix)) :
    place ≠ disk.placeOf other ∧ place ≠ disk.placeOf (other.withSuffix suffix) := by
  rcases hplace with rfl | rfl
  · constructor
    · intro heq
      exact hne (Disk.placeOf_inj.1 heq)
    · intro heq
      exact h.not_prefix hpath hother disk (heq ▸ List.prefix_rfl)
  · constructor
    · intro heq
      exact h.not_prefix hother hpath disk (heq ▸ List.prefix_rfl)
    · intro heq
      exact hne (Path.withSuffix_inj.1 (Disk.placeOf_inj.1 heq))

namespace Run

variable {run : Run} {paths : List Path} (hi : Independent run.writer.suffix paths)

include hi

/-- A step does not change what the step for another file sees. -/
theorem sameSight_process {path other : Path} (hpath : path ∈ paths) (hother : other ∈ paths)
    (hne : path ≠ other) (disk : Disk) :
    SameSight run.writer disk (run.process disk other).1 path := by
  have hplain := hi.plain other hother
  have hstays : ∀ place, (place = disk.placeOf path ∨
      place = disk.placeOf (run.writer.backupPath path)) →
      disk.node? place = (run.process disk other).1.node? place := by
    intro place hplace
    have hapart := hi.apart_places hpath hother hne disk hplace
    exact (node?_process_of_ne hi.named hplain fun _ => hapart).symm
  have hkind : ∀ above, above <+: disk.placeOf path →
      disk.kind? above = (run.process disk other).1.kind? above := by
    intro above habove
    refine (kind?_process hplain hi.named ?_).symm
    intro heq
    exact hi.not_prefix hpath hother disk (heq ▸ habove)
  exact ⟨⟨(home_process hplain hi.named).symm, fun above habove _ => hkind above habove⟩,
    hstays _ (.inl rfl), hstays _ (.inr rfl)⟩

/-- Each file is recorded as if it were the only one. -/
theorem files_processAll (disk : Disk) :
    (run.processAll disk paths).2 = paths.map fun path => (run.process disk path).2 := by
  induction paths generalizing disk with
  | nil => rfl
  | cons first paths ih =>
      have hnodup := List.nodup_cons.1 hi.nodup
      rw [processAll_cons, List.map_cons,
        ih (hi.mono (List.subset_cons_self first paths) hnodup.2)]
      refine congrArg (List.cons _) (List.map_congr_left ?_)
      intro path hpath
      have hne : path ≠ first := fun heq => hnodup.1 (heq ▸ hpath)
      have hmem := List.mem_cons_of_mem first hpath
      exact (sameSight_process hi hmem List.mem_cons_self hne disk).process_snd
        (hi.plain path hmem) hi.named

/-- Each file and its copy are as if the file were the only one. -/
theorem node?_processAll_of_mem {path : Path} (hpath : path ∈ paths) (disk : Disk) {place : Place}
    (hplace : place = disk.placeOf path ∨ place = disk.placeOf (run.writer.backupPath path)) :
    (run.processAll disk paths).1.node? place = (run.process disk path).1.node? place := by
  induction paths generalizing disk with
  | nil => cases hpath
  | cons first paths ih =>
      have hnodup := List.nodup_cons.1 hi.nodup
      have hfirst := hi.plain first List.mem_cons_self
      have hhome : ∀ other, (run.process disk first).1.placeOf other = disk.placeOf other :=
        placeOf_process hi.named hfirst
      rw [processAll_cons]
      dsimp only
      rcases List.mem_cons.1 hpath with rfl | hmem
      · -- The steps that follow stay away from the file and its copy.
        refine node?_processAll hi.named
          (fun other hother => hi.plain other (List.mem_cons_of_mem _ hother)) ?_
        intro other hrecord
        have hother := mem_of_recordsChange hrecord
        have hne : path ≠ other := fun heq => hnodup.1 (heq ▸ hother)
        rw [hhome, hhome]
        exact hi.apart_places hpath (List.mem_cons_of_mem _ hother) hne disk hplace
      · -- The first step changes nothing that the step for the file sees.
        have hne : path ≠ first := fun heq => hnodup.1 (heq ▸ hmem)
        have hplace' : place = (run.process disk first).1.placeOf path ∨
            place = (run.process disk first).1.placeOf (run.writer.backupPath path) := by
          rwa [hhome, hhome]
        rw [ih (hi.mono (List.subset_cons_self first paths) hnodup.2) hmem _ hplace']
        exact (sameSight_process hi hpath List.mem_cons_self hne disk).node?_process
          (hi.plain path hpath) hi.named hplace

/-- What is neither one of the files nor one of their copies stays. -/
theorem node?_processAll_of_not_mem {disk : Disk} {place : Place}
    (hplace : ∀ path ∈ paths, ¬ (place = disk.placeOf path ∨
      place = disk.placeOf (run.writer.backupPath path))) :
    (run.processAll disk paths).1.node? place = disk.node? place := by
  refine node?_processAll hi.named hi.plain ?_
  intro path hpath
  exact not_or.1 (hplace path (mem_of_recordsChange hpath))

end Run

instance : RightCommutative RunSummary.record where
  right_comm := by
    intro summary status other
    cases status <;> cases other <;> rfl

/-- A run over independent files ends with the same disk and the same entry for each file,
whatever the order of the files. Nothing else in the report depends on the order. -/
theorem Run.perform_perm (run : Run) (startedAt : TimeStamp) (disk : Disk)
    {paths others : List Path} (hi : Independent run.writer.suffix paths)
    (hperm : others.Perm paths) :
    (run.perform startedAt disk others).1.SameAs (run.perform startedAt disk paths).1 ∧
    ∃ entry : Path → FileReport, (∀ path, (entry path).path = path) ∧
      (run.perform startedAt disk paths).2.files = paths.map entry ∧
      (run.perform startedAt disk others).2 =
        { (run.perform startedAt disk paths).2 with files := others.map entry } := by
  have ho : Independent run.writer.suffix others :=
    hi.mono hperm.subset (hperm.nodup_iff.2 hi.nodup)
  refine ⟨⟨?_, ?_⟩, fun path => (run.process disk path).2, run.path_process disk, ?_, ?_⟩
  · show (run.processAll disk others).1.home = (run.processAll disk paths).1.home
    rw [← (sameDirectories_processAll ho.named ho.plain disk).home,
      (sameDirectories_processAll hi.named hi.plain disk).home]
  · intro place
    show (run.processAll disk others).1.node? place = (run.processAll disk paths).1.node? place
    by_cases htouched : ∃ path ∈ paths,
        place = disk.placeOf path ∨ place = disk.placeOf (run.writer.backupPath path)
    · obtain ⟨path, hpath, hplace⟩ := htouched
      rw [node?_processAll_of_mem hi hpath disk hplace,
        node?_processAll_of_mem ho (hperm.mem_iff.2 hpath) disk hplace]
    · rw [node?_processAll_of_not_mem ho fun path hpath hplace =>
          htouched ⟨path, hperm.mem_iff.1 hpath, hplace⟩,
        node?_processAll_of_not_mem hi fun path hpath hplace => htouched ⟨path, hpath, hplace⟩]
  · rw [files_perform, files_processAll hi]
  · -- The counters do not depend on the order in which files are counted.
    have hsummary : (((run.processAll disk others).2.map (·.status)).foldl RunSummary.record {}) =
        ((run.processAll disk paths).2.map (·.status)).foldl RunSummary.record {} := by
      rw [files_processAll ho, files_processAll hi, List.map_map, List.map_map]
      exact (hperm.map _).foldl_eq _
    rw [report_perform, report_perform, hsummary, files_processAll ho]

/-- Two files of which both change. -/
theorem Run.perform_two_files :
    let run : Run := ⟨NamedExports.migration, {}, false⟩
    let disk : Disk := ⟨[(["a.ts"], .file (.text "export default class A".toList)),
      (["b.ts"], .file (.text "export default class B".toList))], []⟩
    Independent run.writer.suffix ["a.ts", "b.ts"] ∧
      (run.perform {} disk ["a.ts", "b.ts"]).2.summary.changed = 2 ∧
      (run.perform {} disk ["b.ts", "a.ts"]).1.SameAs (run.perform {} disk ["a.ts", "b.ts"]).1 := by
  intro run disk
  have hi : Independent run.writer.suffix ["a.ts", "b.ts"] :=
    ⟨by decide, by decide, by decide, by decide⟩
  exact ⟨hi, by decide +kernel, (run.perform_perm {} disk hi (.swap _ _ _)).1⟩

end CodeMigration
