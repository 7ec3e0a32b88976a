import CodeMigration.Proofs.PathParts

/-!
# CodeMigration.Proofs.Disks

What writing to a disk and removing from it leaves as it was. Neither makes a directory
nor takes one away, so a path that led to a place still leads there (`SameDirectories`);
only what stands at the place written to is new.

The places of a real disk hang together: the directory above a directory is a directory
(`Rooted`). Without that a path that ends in two dots and a separator could be written
to, and could not be read.
-/

namespace CodeMigration.Disk

/-! ### Disks that hold the same -/

/-- The disks hold the same at every place. -/
def SameAs (disk other : Disk) : Prop :=
  disk.home = other.home ∧ ∀ place, disk.node? place = other.node? place

theorem SameAs.refl (disk : Disk) : disk.SameAs disk := ⟨rfl, fun _ => rfl⟩

/-! ### Disks with the same directories -/

/-- The disks have the same directories. -/
structure SameDirectories (disk other : Disk) : Prop where
  home : disk.home = other.home
  directory_iff : ∀ place,
    disk.node? place = some .directory ↔ other.node? place = some .directory

namespace SameDirectories

variable {disk other third : Disk}

theorem refl (disk : Disk) : SameDirectories disk disk := ⟨rfl, fun _ => Iff.rfl⟩

theorem symm (h : SameDirectories disk other) : SameDirectories other disk :=
  ⟨h.home.symm, fun place => (h.directory_iff place).symm⟩

theorem trans (h : SameDirectories disk other) (h' : SameDirectories other third) :
    SameDirectories disk third :=
  ⟨h.home.trans h'.home, fun place => (h.directory_iff place).trans (h'.directory_iff place)⟩

end SameDirectories

theorem ne_nil_of_not_directory {disk : Disk} {place : Place}
    (h : disk.node? place ≠ some .directory) : place ≠ [] := by
  intro hnil
  rw [hnil] at h
  exact h rfl

/-- A file put where no directory is leaves the directories as they are. -/
theorem sameDirectories_put {disk : Disk} {place : Place}
    (h : disk.node? place ≠ some .directory) (content : Content) :
    SameDirectories disk (disk.put place (.file content)) := by
  refine ⟨rfl, ?_⟩
  intro other
  rw [node?_put _ _ _ _ (ne_nil_of_not_directory h)]
  by_cases hplace : other = place
  · subst hplace
    simp [h]
  · rw [if_neg hplace]

theorem sameDirectories_erase {disk : Disk} {place : Place}
    (h : disk.node? place ≠ some .directory) : SameDirectories disk (disk.erase place) := by
  refine ⟨rfl, ?_⟩
  intro other
  rw [node?_erase _ _ _ (ne_nil_of_not_directory h)]
  by_cases hplace : other = place
  · subst hplace
    simp [h]
  · rw [if_neg hplace]

/-! ### Walks that succeed -/

theorem step_of_directory {disk : Disk} {here : Place} (h : disk.node? here = some .directory)
    (part : String) : disk.step here part =
      if part = "" ∨ part = "." then .ok here
      else if part = ".." then .ok here.dropLast
      else if part.utf8ByteSize > maxNameBytes then .error .nameTooLong
      else .ok (here ++ [part]) := by
  rw [step, h]

theorem directory_of_step {disk : Disk} {here next : Place} {part : String}
    (h : disk.step here part = .ok next) : disk.node? here = some .directory := by
  unfold step at h
  split at h
  · cases h
  · cases h
  · assumption

theorem walk_append (disk : Disk) (here : Place) (front back : List String) :
    disk.walk here (front ++ back) = (disk.walk here front).bind (disk.walk · back) := by
  induction front generalizing here with
  | nil => rfl
  | cons part front ih =>
      rw [List.cons_append, walk, walk]
      cases disk.step here part with
      | error cause => rfl
      | ok next => exact ih next

theorem walk_append_eq_ok {disk : Disk} {here place : Place} {front : List String} {part : String}
    (h : disk.walk here (front ++ [part]) = .ok place) :
    ∃ above, disk.walk here front = .ok above ∧ disk.step above part = .ok place := by
  rw [walk_append] at h
  cases hfront : disk.walk here front with
  | error cause => simp [hfront, Except.bind] at h
  | ok above =>
      refine ⟨above, rfl, ?_⟩
      rw [hfront] at h
      simp only [Except.bind, walk] at h
      cases hstep : disk.step above part with
      | error cause => simp [hstep, bind, Except.bind] at h
      | ok next => simpa [hstep, bind, Except.bind] using h

namespace SameDirectories

variable {disk other : Disk}

theorem step_eq_ok (h : SameDirectories disk other) {here next : Place} {part : String}
    (hstep : disk.step here part = .ok next) : other.step here part = .ok next := by
  have hdir := directory_of_step hstep
  rw [step_of_directory hdir] at hstep
  rw [step_of_directory ((h.directory_iff here).1 hdir), hstep]

theorem walk_eq_ok (h : SameDirectories disk other) {here place : Place} {parts : List String}
    (hwalk : disk.walk here parts = .ok place) : other.walk here parts = .ok place := by
  induction parts generalizing here with
  | nil => exact hwalk
  | cons part parts ih =>
      rw [walk] at hwalk ⊢
      cases hstep : disk.step here part with
      | error cause => simp [hstep, bind, Except.bind] at hwalk
      | ok next =>
          rw [h.step_eq_ok hstep]
          rw [hstep] at hwalk
          exact ih hwalk

theorem start_eq (h : SameDirectories disk other) (path : Path) :
    disk.start path = other.start path := by
  rw [start, start, h.home]

theorem locate_eq_ok (h : SameDirectories disk other) {path : Path} {place : Place}
    (hlocate : disk.locate path = .ok place) : other.locate path = .ok place := by
  unfold locate at hlocate ⊢
  split at hlocate
  · cases hlocate
  · rename_i htext
    rw [if_neg htext]
    split at hlocate
    · cases hlocate
    · rename_i hbytes
      rw [if_neg hbytes, ← h.start_eq]
      exact h.walk_eq_ok hlocate

end SameDirectories

/-! ### Disks that hang together -/

/-- The directory above a directory is a directory. -/
def Rooted (disk : Disk) : Prop :=
  ∀ place, disk.node? place = some .directory → disk.node? place.dropLast = some .directory

/-- Below the root only what is among the nodes of a disk is found. -/
theorem mem_nodes_of_node? {disk : Disk} {place : Place} {node : Node} (hne : place ≠ [])
    (h : disk.node? place = some node) : (place, node) ∈ disk.nodes := by
  rw [node?, if_neg hne] at h
  obtain ⟨front, back, hnodes, -⟩ := List.lookup_eq_some_iff.1 h
  simp [hnodes]

/-- Whether a disk hangs together can be seen from its nodes. -/
theorem rooted_of_nodes {disk : Disk} (h : ∀ entry ∈ disk.nodes,
    entry.2 = .directory → disk.node? entry.1.dropLast = some .directory) : disk.Rooted := by
  intro place hplace
  by_cases hnil : place = []
  · rw [hnil]
    rfl
  · exact h (place, .directory) (mem_nodes_of_node? hnil hplace) rfl

theorem Rooted.of_sameDirectories {disk other : Disk} (h : disk.Rooted)
    (hsame : SameDirectories disk other) : other.Rooted := by
  intro place hplace
  exact (hsame.directory_iff _).1 (h place ((hsame.directory_iff place).2 hplace))

/-- A part that leads to something else than a directory is a name. -/
theorem Rooted.step_eq_ok {disk : Disk} (h : disk.Rooted) {here place : Place} {part : String}
    (hstep : disk.step here part = .ok place) (hplace : disk.node? place ≠ some .directory) :
    IsName part ∧ place = here ++ [part] := by
  have hdir := directory_of_step hstep
  rw [step_of_directory hdir] at hstep
  split at hstep
  · -- An empty part or a dot stays in the directory.
    cases hstep
    exact absurd hdir hplace
  · rename_i hdot
    split at hstep
    · cases hstep
      exact absurd (h here hdir) hplace
    · rename_i hdots
      split at hstep
      · cases hstep
      · cases hstep
        exact ⟨⟨fun heq => hdot (.inl heq), fun heq => hdot (.inr heq), hdots⟩, rfl⟩

/-- Where a text can be written, the path leads to the same place for readers. -/
theorem Rooted.locate_of_locateFile {disk : Disk} (h : disk.Rooted) {path : Path} {place : Place}
    (hlocate : disk.locateFile path = .ok place) (hplace : disk.node? place ≠ some .directory) :
    disk.locate path = .ok place := by
  unfold locateFile at hlocate
  dsimp only at hlocate
  split at hlocate
  · rename_i last front _ _
    -- A separator behind the last name: only dots could lead to a place.
    cases hwalk : disk.walk (disk.start path) front.reverse with
    | error cause => simp [hwalk, bind, Except.bind] at hlocate
    | ok here =>
        simp only [hwalk, bind, Except.bind] at hlocate
        split at hlocate
        · rename_i hdots
          have hname := (h.step_eq_ok hlocate hplace).1
          exact absurd hdots (not_or.2 hname.2)
        · cases hstep : disk.step here "." <;> simp [hstep] at hlocate
  · exact hlocate

theorem locate_eq_ok_iff {disk : Disk} {path : Path} {place : Place} :
    disk.locate path = .ok place ↔ path.text ≠ "" ∧ path.text.utf8ByteSize ≤ maxPathBytes ∧
      disk.walk (disk.start path) (parts path) = .ok place := by
  unfold locate
  by_cases htext : path.text = ""
  · simp [htext]
  · by_cases hbytes : path.text.utf8ByteSize > maxPathBytes
    · simp [htext, hbytes, Nat.not_le.2 hbytes]
    · simp [htext, hbytes, Nat.not_lt.1 hbytes]

theorem ne_of_locate_ne {disk : Disk} {path : Path} {place other : Place}
    (h : disk.locate path = .ok place) (hother : disk.locate path ≠ .ok other) :
    other ≠ place := by
  intro heq
  exact hother (heq ▸ h)

theorem start_withSuffix (disk : Disk) {path : Path} (h : path.text ≠ "") (suffix : String) :
    disk.start (path.withSuffix suffix) = disk.start path := by
  have hhead : (path.withSuffix suffix).isAbsolute = path.isAbsolute := by
    rw [Path.isAbsolute, Path.isAbsolute, Path.withSuffix, String.toList_append]
    cases hchars : path.text.toList with
    | nil => exact absurd (String.toList_inj.1 hchars) h
    | cons c rest => rfl
  rw [start, start, hhead]

/-- A name added to the last part of a path leads to another file. -/
theorem Rooted.locate_withSuffix_ne {disk : Disk} (h : disk.Rooted) {path : Path} {place : Place}
    {suffix : String} (hsuffix : IsNameSuffix suffix)
    (hlocate : disk.locate path = .ok place) (hplace : disk.node? place ≠ some .directory) :
    disk.locate (path.withSuffix suffix) ≠ .ok place := by
  intro hlonger
  obtain ⟨front, last, hparts, hparts'⟩ := exists_parts_withSuffix path suffix hsuffix.2
  rw [locate_eq_ok_iff, hparts] at hlocate
  rw [locate_eq_ok_iff, hparts', start_withSuffix disk hlocate.1] at hlonger
  obtain ⟨above, hwalk, hstep⟩ := walk_append_eq_ok hlocate.2.2
  obtain ⟨above', hwalk', hstep'⟩ := walk_append_eq_ok hlonger.2.2
  obtain rfl : above = above' := Except.ok.inj (hwalk.symm.trans hwalk')
  -- Both parts are names below the same directory, and the second is the longer one.
  obtain ⟨-, heq⟩ := h.step_eq_ok hstep hplace
  obtain ⟨-, heq'⟩ := h.step_eq_ok hstep' hplace
  have hlast : last = last ++ suffix := by
    simpa using List.append_cancel_left (heq.symm.trans heq')
  have hchars := congrArg String.toList hlast
  rw [String.toList_append, List.self_eq_append_right] at hchars
  exact hsuffix.1 (String.toList_inj.1 hchars)

/-! ### Reading, writing and removing -/

theorem read_eq_ok_iff {disk : Disk} {path : Path} {chars : Text} :
    disk.read path = .ok chars ↔
      ∃ place, disk.locate path = .ok place ∧ disk.node? place = some (.file (.text chars)) := by
  unfold read
  cases hlocate : disk.locate path with
  | error cause => simp [bind, Except.bind]
  | ok place =>
      simp only [bind, Except.bind, Except.ok.injEq, exists_eq_left']
      cases hnode : disk.node? place with
      | none => simp
      | some node =>
          cases node with
          | directory => simp
          | file content => cases content <;> simp

/-- A file that stands where a path led to can be read there. -/
theorem SameDirectories.read_eq_ok {disk other : Disk} (h : SameDirectories disk other)
    {path : Path} {place : Place} {chars : Text} (hlocate : disk.locate path = .ok place)
    (hnode : other.node? place = some (.file (.text chars))) : other.read path = .ok chars :=
  read_eq_ok_iff.2 ⟨place, h.locate_eq_ok hlocate, hnode⟩

theorem write_eq_ok_iff {disk after : Disk} {path : Path} {chars : Text} :
    disk.write path chars = .ok after ↔
      ∃ place, disk.locateFile path = .ok place ∧ disk.node? place ≠ some .directory ∧
        after = disk.put place (.file (.text chars)) := by
  unfold write
  cases hlocate : disk.locateFile path with
  | error cause => simp [bind, Except.bind]
  | ok place =>
      simp only [bind, Except.bind, Except.ok.injEq, exists_eq_left']
      split
      · rename_i hnode
        simp [hnode]
      · rename_i hnode
        simp only [Except.ok.injEq]
        exact ⟨fun h => ⟨hnode, h.symm⟩, fun h => h.2.symm⟩

/-- Whether a file can be written does not depend on the text. -/
theorem write_eq_error {disk : Disk} {path : Path} {chars : Text} {cause : DiskError}
    (h : disk.write path chars = .error cause) (others : Text) :
    disk.write path others = .error cause := by
  unfold write at h ⊢
  cases hlocate : disk.locateFile path with
  | error fault => simpa only [hlocate, bind, Except.bind] using h
  | ok place =>
      simp only [hlocate, bind, Except.bind] at h ⊢
      split at h
      · exact h
      · cases h

theorem Rooted.write_eq_ok {disk after : Disk} (h : disk.Rooted) {path : Path} {chars : Text}
    (hwrite : disk.write path chars = .ok after) :
    ∃ place, disk.locate path = .ok place ∧ disk.node? place ≠ some .directory ∧
      after = disk.put place (.file (.text chars)) := by
  obtain ⟨place, hlocate, hplace, hafter⟩ := write_eq_ok_iff.1 hwrite
  exact ⟨place, h.locate_of_locateFile hlocate hplace, hplace, hafter⟩

theorem remove_eq_ok_iff {disk after : Disk} {path : Path} :
    disk.remove path = .ok after ↔
      ∃ place content, disk.locate path = .ok place ∧ disk.node? place = some (.file content) ∧
        after = disk.erase place := by
  unfold remove
  cases hlocate : disk.locate path with
  | error cause => simp [bind, Except.bind]
  | ok place =>
      simp only [bind, Except.bind, Except.ok.injEq]
      cases hnode : disk.node? place with
      | none => simp [hnode]
      | some node =>
          cases node with
          | directory => simp [hnode]
          | file content => simp [hnode, eq_comm]

end CodeMigration.Disk
