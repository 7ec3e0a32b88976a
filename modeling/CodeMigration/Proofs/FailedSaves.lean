import CodeMigration.Proofs.SavedFiles

/-!
# CodeMigration.Proofs.FailedSaves

What is on a disk after a text could not be saved. There are three places where that can fail:
the copy cannot be written, the file cannot be written, or the copy cannot be removed
(`save_eq_error`). The last never happens, since what was written can be found and is a file
(`exists_remove`). Until then the file itself is as it was: a copy that would share its place
with the file leaves nothing that could fail (`exists_write_of_locate`), and no copy makes the
path of the file lead elsewhere (`locate_of_write_withSuffix`).
-/

namespace CodeMigration

namespace Disk

/-- What a path leads to: what stands at its end, or why it leads nowhere. -/
def lookUp (disk : Disk) (path : Path) : Except DiskError (Option Node) :=
  (disk.locate path).map disk.node?

theorem walk_singleton (disk : Disk) (here : Place) (part : String) :
    disk.walk here [part] = disk.step here part := by
  rw [walk]
  cases disk.step here part <;> rfl

/-- Where a path leads to a file, or to nothing, a text can be written. -/
theorem exists_write_of_locate {disk : Disk} {path : Path} {place : Place}
    (hlocate : disk.locate path = .ok place) (hplace : disk.node? place ≠ some .directory)
    (text : Text) : ∃ after, disk.write path text = .ok after := by
  obtain ⟨front, last, hparts⟩ :=
    (List.eq_nil_or_concat' (parts path)).resolve_left (parts_ne_nil path)
  -- A separator at the end of the path would lead to a directory.
  have hlast : last ≠ "" := by
    rintro rfl
    obtain ⟨-, -, hwalk⟩ := locate_eq_ok_iff.1 hlocate
    rw [hparts] at hwalk
    obtain ⟨above, -, hstep⟩ := walk_append_eq_ok hwalk
    have hdir := directory_of_step hstep
    rw [step_of_directory hdir, if_pos (.inl rfl)] at hstep
    exact hplace (Except.ok.inj hstep ▸ hdir)
  have hfile : disk.locateFile path = .ok place := by
    unfold locateFile
    dsimp only
    split
    · rename_i hhead
      rw [hparts, List.reverse_append, List.reverse_singleton, List.singleton_append,
        List.head?_cons, Option.some.injEq] at hhead
      exact absurd hhead hlast
    · exact hlocate
  exact ⟨_, write_eq_ok_iff.2 ⟨place, hfile, hplace, rfl⟩⟩

/-- A suffix goes to the last part of a path, and may bring more parts with it. -/
theorem exists_parts_join (path : Path) (suffix : String) :
    ∃ front last part more, parts path = front ++ [last] ∧
      parts (path.withSuffix suffix) = front ++ part :: more := by
  obtain ⟨front, last, first, more, hparts, -, hlonger⟩ :=
    Path.exists_pieces_join path.text.toList suffix.toList
  refine ⟨front.map String.ofList, String.ofList last, String.ofList (last ++ first),
    more.map String.ofList, by simp [parts, hparts], ?_⟩
  rw [parts, Path.withSuffix, String.toList_append, hlonger]
  simp

/-- A path leads where it did after a file was written at a path that goes on behind it. -/
theorem locate_of_write_withSuffix {disk after : Disk} (hroot : disk.Rooted) {path : Path}
    {suffix : String} {text : Text} (h : disk.write (path.withSuffix suffix) text = .ok after) :
    after.locate path = disk.locate path := by
  obtain ⟨copy, hlocate, hplace, rfl⟩ := hroot.write_eq_ok h
  have hsame := sameDirectories_put hplace (.text text)
  by_cases htext : path.text = ""
  · rw [locate, locate, if_pos htext, if_pos htext]
  -- All parts but the last are parts of the longer path too, so they lead to a directory.
  obtain ⟨front, last, part, more, hparts, hlonger⟩ := exists_parts_join path suffix
  obtain ⟨-, -, hwalk⟩ := locate_eq_ok_iff.1 hlocate
  rw [hlonger, start_withSuffix disk htext, walk_append] at hwalk
  cases hfront : disk.walk (disk.start path) front with
  | error cause => simp [hfront, Except.bind] at hwalk
  | ok above =>
      have hdir : disk.node? above = some .directory := by
        rw [hfront, Except.bind, walk] at hwalk
        cases hstep : disk.step above part with
        | error cause => simp [hstep, bind, Except.bind] at hwalk
        | ok next => exact directory_of_step hstep
      have hwalks : ∀ other : Disk, SameDirectories disk other →
          other.walk (disk.start path) (front ++ [last]) = disk.step above last := by
        intro other hother
        rw [walk_append, hother.walk_eq_ok hfront, Except.bind, walk_singleton,
          step_of_directory hdir, step_of_directory ((hother.directory_iff above).1 hdir)]
      rw [locate, locate, ← hsame.start_eq, hparts, hwalks _ hsame, hwalks _ (.refl disk)]

end Disk

namespace Writer

variable {writer : Writer} {path : Path} {outcome : Outcome} {disk after : Disk}
  {cause : FileError}

/-! ### Where saving fails -/

theorem overwrite_eq_error {text : Text} {andThen : Disk → Disk × Except FileError SaveStatus}
    (h : overwrite path text andThen disk = (after, .error cause)) :
    (∃ reason, disk.write path text = .error reason ∧ cause = .unwritable path.text reason ∧
      after = disk) ∨
    ∃ written, disk.write path text = .ok written ∧ andThen written = (after, .error cause) := by
  unfold overwrite at h
  split at h
  · rename_i reason hwrite
    cases h
    exact .inl ⟨reason, hwrite, rfl, rfl⟩
  · exact .inr ⟨_, ‹_›, h⟩

theorem copyFirst_eq_error {copy : Path} {text : Text}
    {andThen : Disk → Disk × Except FileError SaveStatus}
    (h : copyFirst copy text andThen disk = (after, .error cause)) :
    (∃ reason, cause = .backupFailed copy.text reason ∧ after = disk) ∨
    ∃ copied, disk.write copy text = .ok copied ∧ andThen copied = (after, .error cause) := by
  unfold copyFirst at h
  split at h
  · rename_i reason hwrite
    cases h
    exact .inl ⟨reason, rfl, rfl⟩
  · exact .inr ⟨_, ‹_›, h⟩

theorem replace_of_save_error (h : writer.save path outcome disk = (after, .error cause)) :
    writer.replace path outcome disk = (after, .error cause) := by
  rcases writer.save_eq_replace_or path outcome disk with ⟨-, hreplace⟩ | ⟨status, -, hdone⟩
  · rw [← hreplace, h]
  · rw [hdone, Prod.mk.injEq] at h
    cases h.2

/-- A copy that was written, and perhaps overwritten, can be removed. -/
theorem exists_remove {copied written : Disk} (hroot : disk.Rooted)
    (hcopy : disk.write (writer.backupPath path) outcome.before = .ok copied)
    (hwrite : copied.write path outcome.after = .ok written) :
    ∃ left, written.remove (writer.backupPath path) = .ok left := by
  obtain ⟨file, copy, -, hcopyAt, -, hsame, hnodes⟩ := exists_places_of_copied hroot hcopy hwrite
  have hcontent : ∃ content, written.node? copy = some (.file content) := by
    rw [hnodes]
    split
    · exact ⟨_, rfl⟩
    · rw [if_pos rfl]
      exact ⟨_, rfl⟩
  obtain ⟨content, hcontent⟩ := hcontent
  exact ⟨_, Disk.remove_eq_ok_iff.2 ⟨copy, content, hsame.locate_eq_ok hcopyAt, hcontent, rfl⟩⟩

/-- A text cannot be saved where its copy cannot be written, or where the file cannot be
written, with the copy before it as the mode asks. -/
theorem save_eq_error (hroot : disk.Rooted)
    (h : writer.save path outcome disk = (after, .error cause)) :
    (writer.mode ≠ .none ∧ ∃ reason, cause = .backupFailed (writer.backupPath path).text reason ∧
      after = disk) ∨
    ∃ reason, cause = .unwritable path.text reason ∧
      (writer.mode = .none ∧ after = disk ∨
        writer.mode ≠ .none ∧ disk.write (writer.backupPath path) outcome.before = .ok after ∧
          after.write path outcome.after = .error reason) := by
  have h := replace_of_save_error h
  unfold replace at h
  cases hmode : writer.mode with
  | none =>
      rw [hmode] at h
      rcases overwrite_eq_error h with ⟨reason, -, hcause, hafter⟩ | ⟨written, -, hdone⟩
      · exact .inr ⟨reason, hcause, .inl ⟨rfl, hafter⟩⟩
      · simp at hdone
  | keep =>
      rw [hmode] at h
      rcases copyFirst_eq_error h with hcopy | ⟨copied, hcopy, h⟩
      · exact .inl ⟨by simp, hcopy⟩
      · rcases overwrite_eq_error h with ⟨reason, hwrite, hcause, rfl⟩ | ⟨written, -, hdone⟩
        · exact .inr ⟨reason, hcause, .inr ⟨by simp, hcopy, hwrite⟩⟩
        · simp at hdone
  | transient =>
      rw [hmode] at h
      rcases copyFirst_eq_error h with hcopy | ⟨copied, hcopy, h⟩
      · exact .inl ⟨by simp, hcopy⟩
      · rcases overwrite_eq_error h with ⟨reason, hwrite, hcause, rfl⟩ | ⟨written, hwrite, hdrop⟩
        · exact .inr ⟨reason, hcause, .inr ⟨by simp, hcopy, hwrite⟩⟩
        · obtain ⟨left, hremove⟩ := exists_remove hroot hcopy hwrite
          rw [dropCopy, hremove] at hdrop
          simp at hdrop

/-! ### What is there afterwards -/

/-- What is expected of a disk on which a text could not be saved. -/
structure FailsSafely (writer : Writer) (path : Path) (outcome : Outcome) (before after : Disk)
    (cause : FileError) : Prop where
  /-- The path of the file leads to what it led to before. -/
  source : after.lookUp path = before.lookUp path
  /-- What failed was to write the copy, or to write the file. -/
  kind : (∃ reason, cause = .backupFailed (writer.backupPath path).text reason) ∨
    ∃ reason, cause = .unwritable path.text reason
  /-- If it was the copy, then nothing has changed. -/
  untouched : (∃ name reason, cause = .backupFailed name reason) → after = before
  /-- If it was the file, then nothing has changed except that there may be its copy. -/
  copied : (∃ name reason, cause = .unwritable name reason) → after = before ∨
    writer.mode ≠ .none ∧ after.read (writer.backupPath path) = .ok outcome.before ∧
      after.home = before.home ∧ ∀ place, before.locate (writer.backupPath path) ≠ .ok place →
        after.node? place = before.node? place

/-- The file is not where its copy was written if it cannot be written behind the copy. -/
theorem lookUp_of_copied (hroot : disk.Rooted) {reason : DiskError}
    (hcopy : disk.write (writer.backupPath path) outcome.before = .ok after)
    (hwrite : after.write path outcome.after = .error reason) :
    after.lookUp path = disk.lookUp path := by
  have hlocate := Disk.locate_of_write_withSuffix hroot hcopy
  obtain ⟨copy, -, hplace, rfl⟩ := hroot.write_eq_ok hcopy
  rw [Disk.lookUp, Disk.lookUp, hlocate]
  cases hpath : disk.locate path with
  | error cause => rfl
  | ok file =>
      have hnode := Disk.node?_put disk copy file (.file (.text outcome.before))
        (Disk.ne_nil_of_not_directory hplace)
      have hne : file ≠ copy := by
        rintro rfl
        rw [if_pos rfl] at hnode
        obtain ⟨written, hwritten⟩ := Disk.exists_write_of_locate (hlocate.trans hpath)
          (by simp [hnode]) outcome.after
        rw [hwritten] at hwrite
        cases hwrite
      rw [if_neg hne] at hnode
      exact congrArg Except.ok hnode

/-- A text that cannot be saved does no harm to the file. -/
theorem failsSafely (hroot : disk.Rooted)
    (h : writer.save path outcome disk = (after, .error cause)) :
    writer.FailsSafely path outcome disk after cause := by
  rcases save_eq_error hroot h with ⟨-, reason, rfl, rfl⟩ |
    ⟨reason, rfl, ⟨-, rfl⟩ | ⟨hmode, hcopy, hwrite⟩⟩
  · exact ⟨rfl, .inl ⟨reason, rfl⟩, fun _ => rfl, fun ⟨_, _, hother⟩ => by cases hother⟩
  · exact ⟨rfl, .inr ⟨reason, rfl⟩, fun _ => rfl, fun _ => .inl rfl⟩
  · refine ⟨lookUp_of_copied hroot hcopy hwrite, .inr ⟨reason, rfl⟩,
      fun ⟨_, _, hother⟩ => (by cases hother), fun _ => .inr ⟨hmode, ?_⟩⟩
    obtain ⟨copy, hlocate, hplace, rfl⟩ := hroot.write_eq_ok hcopy
    have hnode := fun place => Disk.node?_put disk copy place (.file (.text outcome.before))
      (Disk.ne_nil_of_not_directory hplace)
    refine ⟨?_, rfl, fun place hne => ?_⟩
    · exact (Disk.sameDirectories_put hplace _).read_eq_ok hlocate (by simp [hnode])
    · rw [hnode, if_neg (Disk.ne_of_locate_ne hlocate hne)]

/-- A directory took the place of the file: the copy is there, and so is the directory. -/
theorem failsSafely_directory_in_the_way :
    let disk : Disk := ⟨[(["a.ts"], .directory)], []⟩
    let after : Disk := ⟨[(["a.ts"], .directory), (["a.ts.backup"], .file (.text ['o']))], []⟩
    disk.Rooted ∧
      Writer.save {} "a.ts" ⟨['o'], ['n'], ["rule"]⟩ disk =
        (after, .error (.unwritable "a.ts" .isDirectory)) ∧
      Writer.FailsSafely {} "a.ts" ⟨['o'], ['n'], ["rule"]⟩ disk after
        (.unwritable "a.ts" .isDirectory) := by
  intro disk after
  have hroot : disk.Rooted := Disk.rooted_of_nodes (by decide)
  have hsave : Writer.save {} "a.ts" ⟨['o'], ['n'], ["rule"]⟩ disk =
      (after, .error (.unwritable "a.ts" .isDirectory)) := by decide +kernel
  exact ⟨hroot, hsave, failsSafely hroot hsave⟩

end Writer

end CodeMigration
