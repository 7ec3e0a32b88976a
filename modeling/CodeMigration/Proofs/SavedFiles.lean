import CodeMigration.Proofs.Disks
import CodeMigration.Writer

/-!
# CodeMigration.Proofs.SavedFiles

What is on a disk after a text was saved. The file should hold the new text and, if copies
are kept, its copy the old one, and nothing else should have changed (`SavedAt`). The copy
is written first and then the file, so all is well as long as the path of the copy leads to
another place. If both lead to the same place, then the copy is overwritten by the file, and
a copy that is to be removed takes the file with it (`savedAt_iff_own_place`). An empty
suffix always does that. A suffix that is a name never does.
-/

namespace CodeMigration.Writer

/-- What is expected of a disk after a text was saved on it. -/
structure SavedAt (writer : Writer) (path : Path) (outcome : Outcome) (before after : Disk)
    (backup : Option Path) : Prop where
  /-- The file holds the new text. -/
  text : after.read path = .ok outcome.after
  /-- A copy is reported just if copies are kept. -/
  reported : backup = if writer.mode = .keep then some (writer.backupPath path) else none
  /-- A copy that is kept holds the old text. -/
  copy : writer.mode = .keep → after.read (writer.backupPath path) = .ok outcome.before
  /-- The working directory stays where it is. -/
  home : after.home = before.home
  /-- Nothing changes at the places of other paths. -/
  rest : ∀ place, before.locate path ≠ .ok place →
    before.locate (writer.backupPath path) ≠ .ok place → after.node? place = before.node? place

/-! ### What was done -/

variable {writer : Writer} {path : Path} {outcome : Outcome} {disk after : Disk}
  {backup : Option Path}

theorem overwrite_eq_ok {text : Text} {andThen : Disk → Disk × Except FileError SaveStatus}
    {status : SaveStatus} (h : overwrite path text andThen disk = (after, .ok status)) :
    ∃ written, disk.write path text = .ok written ∧ andThen written = (after, .ok status) := by
  unfold overwrite at h
  split at h
  · simp at h
  · exact ⟨_, ‹_›, h⟩

theorem copyFirst_eq_ok {copy : Path} {text : Text}
    {andThen : Disk → Disk × Except FileError SaveStatus} {status : SaveStatus}
    (h : copyFirst copy text andThen disk = (after, .ok status)) :
    ∃ copied, disk.write copy text = .ok copied ∧ andThen copied = (after, .ok status) := by
  unfold copyFirst at h
  split at h
  · simp at h
  · exact ⟨_, ‹_›, h⟩

theorem dropCopy_eq_ok {copy : Path} {status : SaveStatus}
    (h : dropCopy copy disk = (after, .ok status)) :
    disk.remove copy = .ok after ∧ status = .written none := by
  unfold dropCopy at h
  split at h
  · simp at h
  · rename_i hremove
    simp only [Prod.mk.injEq, Except.ok.injEq] at h
    obtain ⟨rfl, rfl⟩ := h
    exact ⟨hremove, rfl⟩

/-- What is done to a disk where a file is replaced, mode by mode. -/
theorem replace_eq_ok {status : SaveStatus}
    (h : writer.replace path outcome disk = (after, .ok status)) :
    (writer.mode = .none ∧ status = .written none ∧ disk.write path outcome.after = .ok after) ∨
    (writer.mode = .keep ∧ status = .written (some (writer.backupPath path)) ∧
      ∃ copied, disk.write (writer.backupPath path) outcome.before = .ok copied ∧
        copied.write path outcome.after = .ok after) ∨
    (writer.mode = .transient ∧ status = .written none ∧
      ∃ copied written, disk.write (writer.backupPath path) outcome.before = .ok copied ∧
        copied.write path outcome.after = .ok written ∧
        written.remove (writer.backupPath path) = .ok after) := by
  unfold replace at h
  cases hmode : writer.mode with
  | none =>
      rw [hmode] at h
      obtain ⟨written, hwrite, hdone⟩ := overwrite_eq_ok h
      simp only [Prod.mk.injEq, Except.ok.injEq] at hdone
      obtain ⟨rfl, rfl⟩ := hdone
      exact .inl ⟨rfl, rfl, hwrite⟩
  | keep =>
      rw [hmode] at h
      obtain ⟨copied, hcopy, h⟩ := copyFirst_eq_ok h
      obtain ⟨written, hwrite, hdone⟩ := overwrite_eq_ok h
      simp only [Prod.mk.injEq, Except.ok.injEq] at hdone
      obtain ⟨rfl, rfl⟩ := hdone
      exact .inr (.inl ⟨rfl, rfl, copied, hcopy, hwrite⟩)
  | transient =>
      rw [hmode] at h
      obtain ⟨copied, hcopy, h⟩ := copyFirst_eq_ok h
      obtain ⟨written, hwrite, h⟩ := overwrite_eq_ok h
      obtain ⟨hremove, hstatus⟩ := dropCopy_eq_ok h
      exact .inr (.inr ⟨rfl, hstatus, copied, written, hcopy, hwrite, hremove⟩)

/-- A text is put in the place of another, or nothing is done: no rule has fired, or it is a dry
run. -/
theorem save_eq_replace_or (writer : Writer) (path : Path) (outcome : Outcome) (disk : Disk) :
    writer.dryRun = false ∧
      writer.save path outcome disk = writer.replace path outcome disk ∨
    ∃ status, (∀ backup, status ≠ .written backup) ∧
      writer.save path outcome disk = (disk, .ok status) := by
  unfold save
  split
  · exact .inr ⟨_, by simp, rfl⟩
  split
  · exact .inr ⟨_, by simp, rfl⟩
  · next hdry => exact .inl ⟨by simpa using hdry, rfl⟩

theorem replace_of_save (h : writer.save path outcome disk = (after, .ok (.written backup))) :
    writer.replace path outcome disk = (after, .ok (.written backup)) := by
  rcases writer.save_eq_replace_or path outcome disk with ⟨-, hreplace⟩ | ⟨status, hstatus, hdone⟩
  · rw [← hreplace, h]
  · rw [hdone, Prod.mk.injEq, Except.ok.injEq] at h
    exact absurd h.2 (hstatus backup)

/-- Saving a text changes the disk only outside of a dry run, and then says so or fails. -/
theorem save_cases (writer : Writer) (path : Path) (outcome : Outcome) (disk : Disk) :
    (writer.save path outcome disk).1 = disk ∨
    (writer.dryRun = false ∧
      ((∃ backup, (writer.save path outcome disk).2 = .ok (.written backup)) ∨
        ∃ cause, (writer.save path outcome disk).2 = .error cause)) := by
  rcases writer.save_eq_replace_or path outcome disk with ⟨hdry, hreplace⟩ | ⟨status, -, hdone⟩
  · refine .inr ⟨hdry, ?_⟩
    rw [hreplace]
    rcases hresult : writer.replace path outcome disk with ⟨after, cause | status⟩
    · exact .inr ⟨cause, rfl⟩
    · refine .inl ?_
      rcases replace_eq_ok hresult with ⟨-, rfl, -⟩ | ⟨-, rfl, -⟩ | ⟨-, rfl, -⟩ <;> exact ⟨_, rfl⟩
  · exact .inl (by rw [hdone])

/-! ### What is there afterwards -/

theorem savedAt_of_none (hroot : disk.Rooted) (hmode : writer.mode = .none)
    (hwrite : disk.write path outcome.after = .ok after) :
    writer.SavedAt path outcome disk after none := by
  obtain ⟨place, hlocate, hplace, rfl⟩ := hroot.write_eq_ok hwrite
  have hnil := Disk.ne_nil_of_not_directory hplace
  refine ⟨?_, by simp [hmode], by simp [hmode], rfl, fun other hother _ => ?_⟩
  · exact (Disk.sameDirectories_put hplace _).read_eq_ok hlocate
      (by simp [Disk.node?_put _ _ _ _ hnil])
  · rw [Disk.node?_put _ _ _ _ hnil, if_neg (Disk.ne_of_locate_ne hlocate hother)]

/-- Where a copy is written and then the file, both paths keep leading to their places. -/
theorem exists_places_of_copied {copied written : Disk} (hroot : disk.Rooted)
    (hcopy : disk.write (writer.backupPath path) outcome.before = .ok copied)
    (hwrite : copied.write path outcome.after = .ok written) :
    ∃ file copy, disk.locate path = .ok file ∧ disk.locate (writer.backupPath path) = .ok copy ∧
      disk.node? file ≠ some .directory ∧ Disk.SameDirectories disk written ∧
      ∀ place, written.node? place =
        if place = file then some (.file (.text outcome.after))
        else if place = copy then some (.file (.text outcome.before))
        else disk.node? place := by
  obtain ⟨copy, hlocate, hplace, rfl⟩ := hroot.write_eq_ok hcopy
  have hcopied := Disk.sameDirectories_put hplace (.text outcome.before)
  obtain ⟨file, hlocate', hplace', rfl⟩ := (hroot.of_sameDirectories hcopied).write_eq_ok hwrite
  have hwritten := hcopied.trans (Disk.sameDirectories_put hplace' (.text outcome.after))
  have hfile : disk.node? file ≠ some .directory := fun h =>
    hplace' ((hcopied.directory_iff file).1 h)
  refine ⟨file, copy, hcopied.symm.locate_eq_ok hlocate', hlocate, hfile, hwritten, ?_⟩
  intro place
  rw [Disk.node?_put _ _ _ _ (Disk.ne_nil_of_not_directory hplace'),
    Disk.node?_put _ _ _ _ (Disk.ne_nil_of_not_directory hplace)]

theorem savedAt_iff_of_keep {copied : Disk} (hroot : disk.Rooted) (hmode : writer.mode = .keep)
    (hcopy : disk.write (writer.backupPath path) outcome.before = .ok copied)
    (hwrite : copied.write path outcome.after = .ok after) :
    writer.SavedAt path outcome disk after (some (writer.backupPath path)) ↔
      disk.locate path ≠ disk.locate (writer.backupPath path) ∨ outcome.after = outcome.before := by
  obtain ⟨file, copy, hfile, hcopyAt, -, hsame, hnodes⟩ :=
    exists_places_of_copied hroot hcopy hwrite
  -- All but the text of the copy is as it should be.
  have hsaved : writer.SavedAt path outcome disk after (some (writer.backupPath path)) ↔
      after.node? copy = some (.file (.text outcome.before)) := by
    constructor
    · intro h
      obtain ⟨place, hplace, hnode⟩ := Disk.read_eq_ok_iff.1 (h.copy hmode)
      rw [hsame.locate_eq_ok hcopyAt] at hplace
      rwa [Except.ok.inj hplace]
    · intro h
      refine ⟨?_, by simp [hmode], ?_, hsame.home.symm, ?_⟩
      · exact hsame.read_eq_ok hfile (by simp [hnodes])
      · intro _
        exact hsame.read_eq_ok hcopyAt h
      · intro place hne hne'
        rw [hnodes, if_neg (Disk.ne_of_locate_ne hfile hne),
          if_neg (Disk.ne_of_locate_ne hcopyAt hne')]
  rw [hsaved, hfile, hcopyAt, hnodes]
  by_cases heq : copy = file
  · simp [heq]
  · simp [heq, Ne.symm heq]

theorem savedAt_iff_of_transient {copied written : Disk} (hroot : disk.Rooted)
    (hmode : writer.mode = .transient)
    (hcopy : disk.write (writer.backupPath path) outcome.before = .ok copied)
    (hwrite : copied.write path outcome.after = .ok written)
    (hremove : written.remove (writer.backupPath path) = .ok after) :
    writer.SavedAt path outcome disk after none ↔
      disk.locate path ≠ disk.locate (writer.backupPath path) := by
  obtain ⟨file, copy, hfile, hcopyAt, -, hsame, hnodes⟩ :=
    exists_places_of_copied hroot hcopy hwrite
  obtain ⟨place, content, hplace, hnode, rfl⟩ := Disk.remove_eq_ok_iff.1 hremove
  obtain rfl : copy = place := Except.ok.inj ((hsame.locate_eq_ok hcopyAt).symm.trans hplace)
  have hnotDir : written.node? copy ≠ some .directory := by simp [hnode]
  have herase := Disk.node?_erase written copy
  have hleft := hsame.trans (Disk.sameDirectories_erase hnotDir)
  rw [hfile, hcopyAt]
  constructor
  · -- A file that was removed with its copy cannot be read.
    intro h heq
    cases heq
    obtain ⟨found, hfound, htext⟩ := Disk.read_eq_ok_iff.1 h.text
    rw [hleft.locate_eq_ok hfile] at hfound
    cases hfound
    simp [herase _ (Disk.ne_nil_of_not_directory hnotDir)] at htext
  · intro hne
    have hne : file ≠ copy := fun heq => hne (heq ▸ rfl)
    refine ⟨?_, by simp [hmode], by simp [hmode], hleft.home.symm, ?_⟩
    · refine hleft.read_eq_ok hfile ?_
      rw [herase _ (Disk.ne_nil_of_not_directory hnotDir), if_neg hne, hnodes, if_pos rfl]
    · intro other hother hother'
      have hother' := Disk.ne_of_locate_ne hcopyAt hother'
      rw [herase _ (Disk.ne_nil_of_not_directory hnotDir), if_neg hother', hnodes,
        if_neg (Disk.ne_of_locate_ne hfile hother), if_neg hother']

/-- The copy has a place of its own if the suffix is a name. -/
theorem locate_ne_of_copied {copied written : Disk} (hroot : disk.Rooted)
    (hcopy : disk.write (writer.backupPath path) outcome.before = .ok copied)
    (hwrite : copied.write path outcome.after = .ok written)
    (hsuffix : IsNameSuffix writer.suffix) :
    disk.locate path ≠ disk.locate (writer.backupPath path) := by
  obtain ⟨file, copy, hfile, -, hplace, -, -⟩ := exists_places_of_copied hroot hcopy hwrite
  rw [hfile]
  exact (hroot.locate_withSuffix_ne hsuffix hfile hplace).symm

/-- A text that was saved is as it should be just if no copy was made, or the copy has a
place of its own, or the copy is kept and there was no difference between the texts. A
suffix that is a name gives the copy a place of its own. -/
theorem savedAt_iff_own_place (hroot : disk.Rooted)
    (hsave : writer.save path outcome disk = (after, .ok (.written backup))) :
    (writer.SavedAt path outcome disk after backup ↔
      writer.mode = .none ∨ disk.locate path ≠ disk.locate (writer.backupPath path) ∨
        (writer.mode = .keep ∧ outcome.after = outcome.before)) ∧
    (IsNameSuffix writer.suffix → writer.SavedAt path outcome disk after backup) := by
  rcases replace_eq_ok (replace_of_save hsave) with ⟨hmode, ⟨⟩, hwrite⟩ |
    ⟨hmode, ⟨⟩, copied, hcopy, hwrite⟩ | ⟨hmode, ⟨⟩, copied, written, hcopy, hwrite, hremove⟩
  · have hsaved := savedAt_of_none hroot hmode hwrite
    exact ⟨iff_of_true hsaved (.inl hmode), fun _ => hsaved⟩
  · have hiff := savedAt_iff_of_keep hroot hmode hcopy hwrite
    refine ⟨by simp [hiff, hmode], ?_⟩
    intro hsuffix
    exact hiff.2 (.inl (locate_ne_of_copied hroot hcopy hwrite hsuffix))
  · have hiff := savedAt_iff_of_transient hroot hmode hcopy hwrite hremove
    refine ⟨by simp [hiff, hmode], ?_⟩
    intro hsuffix
    exact hiff.2 (locate_ne_of_copied hroot hcopy hwrite hsuffix)

/-- The default way of saving leaves a copy beside the file. -/
theorem savedAt_default_suffix :
    let disk : Disk := ⟨[(["a.ts"], .file (.text ['o']))], []⟩
    let after : Disk :=
      ⟨[(["a.ts"], .file (.text ['n'])), (["a.ts.backup"], .file (.text ['o']))], []⟩
    disk.Rooted ∧
      Writer.save {} "a.ts" ⟨['o'], ['n'], ["rule"]⟩ disk =
        (after, .ok (.written (some "a.ts.backup"))) ∧
      Writer.SavedAt {} "a.ts" ⟨['o'], ['n'], ["rule"]⟩ disk after (some "a.ts.backup") := by
  intro disk after
  have hroot : disk.Rooted := Disk.rooted_of_nodes (by decide)
  have hsave : Writer.save {} "a.ts" ⟨['o'], ['n'], ["rule"]⟩ disk =
      (after, .ok (.written (some "a.ts.backup"))) := by decide +kernel
  exact ⟨hroot, hsave, (savedAt_iff_own_place hroot hsave).2 (by decide)⟩

/-- With an empty suffix the copy is the file, and is removed as a copy. -/
theorem not_savedAt_empty_suffix :
    let writer : Writer := ⟨.transient, "", false⟩
    let disk : Disk := ⟨[(["a.ts"], .file (.text ['o']))], []⟩
    writer.save "a.ts" ⟨['o'], ['n'], ["rule"]⟩ disk = (⟨[], []⟩, .ok (.written none)) ∧
      ¬ writer.SavedAt "a.ts" ⟨['o'], ['n'], ["rule"]⟩ disk ⟨[], []⟩ none := by
  intro writer disk
  refine ⟨by decide +kernel, ?_⟩
  intro h
  exact absurd h.text (by decide +kernel)

end CodeMigration.Writer
