import CodeMigration.Proofs.Disks

/-!
# CodeMigration.Proofs.PlainPaths

Where plain paths lead. All parts of a plain path are names, so it can only lead to one place,
the one that its parts name below the working directory (`placeOf`); different paths lead to
different places. Whether it leads there, and if not, why not, depends on what stands at the
places above (`SameWay`), and there only on which of them hold directories and which hold
files.
-/

namespace CodeMigration.Disk

/-! ### The place of a plain path -/

/-- The place that a plain path leads to, if it leads anywhere. -/
def placeOf (disk : Disk) (path : Path) : Place := disk.home ++ parts path

theorem placeOf_inj {disk : Disk} {path other : Path} :
    disk.placeOf path = disk.placeOf other ↔ path = other := by
  rw [placeOf, placeOf, List.append_cancel_left_eq]
  exact parts_injective.eq_iff

theorem placeOf_ne_nil (disk : Disk) (path : Path) : disk.placeOf path ≠ [] := by
  intro h
  exact parts_ne_nil path (List.append_eq_nil_iff.1 h).2

/-! ### The way to a place -/

/-- What a walk sees of a place: nothing, a file or a directory. -/
def kind? (disk : Disk) (place : Place) : Option Bool :=
  (disk.node? place).map (· == .directory)

theorem step_congr {disk other : Disk} {here : Place} (h : disk.kind? here = other.kind? here)
    (part : String) : disk.step here part = other.step here part := by
  unfold kind? at h
  unfold step
  cases hnode : disk.node? here with
  | none =>
      rw [hnode] at h
      rw [Option.map_eq_none_iff.1 h.symm]
  | some node =>
      cases hnode' : other.node? here with
      | none => simp [hnode, hnode'] at h
      | some node' => cases node <;> cases node' <;> simp_all

/-- Both disks have the same kind of node at every place above the given one. -/
structure SameWay (disk other : Disk) (place : Place) : Prop where
  home : disk.home = other.home
  kind : ∀ above, above <+: place → above ≠ place → disk.kind? above = other.kind? above

theorem step_of_name {disk : Disk} {here place : Place} {part : String} (h : IsName part)
    (hstep : disk.step here part = .ok place) : place = here ++ [part] := by
  rw [step_of_directory (directory_of_step hstep)] at hstep
  rw [if_neg (not_or.2 ⟨h.1, h.2.1⟩), if_neg h.2.2] at hstep
  split at hstep
  · cases hstep
  · exact (Except.ok.inj hstep).symm

theorem walk_of_names {disk : Disk} {here place : Place} {names : List String}
    (h : ∀ name ∈ names, IsName name) (hwalk : disk.walk here names = .ok place) :
    place = here ++ names := by
  induction names generalizing here with
  | nil => simpa [walk] using hwalk.symm
  | cons name names ih =>
      rw [walk] at hwalk
      cases hstep : disk.step here name with
      | error cause => simp [hstep, bind, Except.bind] at hwalk
      | ok next =>
          rw [hstep] at hwalk
          rw [ih (fun part hpart => h part (List.mem_cons_of_mem name hpart)) hwalk,
            step_of_name (h name List.mem_cons_self) hstep, List.append_assoc,
            List.singleton_append]

theorem walk_congr {disk other : Disk} {here : Place} {names : List String}
    (h : ∀ name ∈ names, IsName name)
    (hkind : ∀ above, above <+: here ++ names → above ≠ here ++ names →
      disk.kind? above = other.kind? above) :
    disk.walk here names = other.walk here names := by
  induction names generalizing here with
  | nil => rfl
  | cons name names ih =>
      have hstep : disk.step here name = other.step here name :=
        step_congr (hkind here (List.prefix_append _ _) (by simp)) name
      rw [walk, walk, ← hstep]
      cases hnext : disk.step here name with
      | error cause => rfl
      | ok next =>
          -- The places above the end of the walk are the same from the next place on.
          have hplace := step_of_name (h name List.mem_cons_self) hnext
          have hend : here ++ name :: names = next ++ names := by simp [hplace]
          rw [hend] at hkind
          exact ih (fun part hpart => h part (List.mem_cons_of_mem name hpart)) hkind

end CodeMigration.Disk

namespace CodeMigration.Path.IsPlain

open Disk

variable {path : Path} {disk other : Disk}

theorem start_eq (h : path.IsPlain) (disk : Disk) : disk.start path = disk.home := by
  rw [start, h.isAbsolute]
  rfl

theorem locate_eq_ok (h : path.IsPlain) {place : Place} (hlocate : disk.locate path = .ok place) :
    place = disk.placeOf path := by
  have hwalk := (locate_eq_ok_iff.1 hlocate).2.2
  rw [h.start_eq] at hwalk
  exact walk_of_names h hwalk

theorem locate_congr (h : path.IsPlain) (hway : SameWay disk other (disk.placeOf path)) :
    disk.locate path = other.locate path := by
  have hwalk : disk.walk disk.home (parts path) = other.walk other.home (parts path) := by
    rw [← hway.home]
    exact walk_congr h hway.kind
  rw [locate, locate, h.start_eq, h.start_eq, hwalk]

theorem read_congr (h : path.IsPlain) (hway : SameWay disk other (disk.placeOf path))
    (hnode : disk.node? (disk.placeOf path) = other.node? (disk.placeOf path)) :
    disk.read path = other.read path := by
  unfold Disk.read
  rw [← h.locate_congr hway]
  cases hlocate : disk.locate path with
  | error cause => rfl
  | ok place =>
      rw [h.locate_eq_ok hlocate]
      simp only [bind, Except.bind, hnode]

theorem locate_of_read (h : path.IsPlain) {chars : Text} (hread : disk.read path = .ok chars) :
    disk.locate path = .ok (disk.placeOf path) := by
  obtain ⟨place, hlocate, -⟩ := read_eq_ok_iff.1 hread
  rw [hlocate, h.locate_eq_ok hlocate]

theorem node?_of_read (h : path.IsPlain) {chars : Text} (hread : disk.read path = .ok chars) :
    disk.node? (disk.placeOf path) = some (.file (.text chars)) := by
  obtain ⟨place, hlocate, hnode⟩ := read_eq_ok_iff.1 hread
  rwa [← h.locate_eq_ok hlocate]

/-- Behind the last name of a plain path there is no separator. -/
theorem locateFile_eq (h : path.IsPlain) (disk : Disk) :
    disk.locateFile path = disk.locate path := by
  unfold locateFile
  dsimp only
  split
  · rename_i hlast
    have hmem : "" ∈ parts path := List.mem_reverse.1 (List.mem_of_mem_head? hlast)
    exact absurd rfl (h "" hmem).1
  · rfl

end CodeMigration.Path.IsPlain

namespace CodeMigration.Disk

/-! ### Writing to a plain path -/

/-- Why nothing can be written to the path. -/
def writeError? (disk : Disk) (path : Path) : Option DiskError :=
  match disk.write path [] with
  | .error cause => some cause
  | .ok _ => none

theorem write_eq (disk : Disk) {path : Path} (h : path.IsPlain) (chars : Text) :
    disk.write path chars =
      match disk.writeError? path with
      | some cause => .error cause
      | none => .ok (disk.put (disk.placeOf path) (.file (.text chars))) := by
  unfold writeError? write
  rw [h.locateFile_eq]
  cases hlocate : disk.locate path with
  | error cause => rfl
  | ok place =>
      rw [← h.locate_eq_ok hlocate]
      simp only [bind, Except.bind]
      split <;> simp_all

theorem writeError?_congr {disk other : Disk} {path : Path} (h : path.IsPlain)
    (hway : SameWay disk other (disk.placeOf path))
    (hnode : disk.node? (disk.placeOf path) = other.node? (disk.placeOf path)) :
    disk.writeError? path = other.writeError? path := by
  unfold writeError? write
  rw [h.locateFile_eq, h.locateFile_eq, ← h.locate_congr hway]
  cases hlocate : disk.locate path with
  | error cause => rfl
  | ok place =>
      rw [h.locate_eq_ok hlocate]
      simp only [bind, Except.bind, hnode]
      cases other.node? (disk.placeOf path) with
      | none => rfl
      | some node => cases node <;> rfl

theorem locate_of_writeError? {disk : Disk} {path : Path} (h : path.IsPlain)
    (hnone : disk.writeError? path = none) : disk.locate path = .ok (disk.placeOf path) := by
  have hwrite := disk.write_eq h []
  rw [hnone] at hwrite
  obtain ⟨place, hlocate, -, -⟩ := write_eq_ok_iff.1 hwrite
  rw [h.locateFile_eq] at hlocate
  rw [hlocate, h.locate_eq_ok hlocate]

theorem node?_of_writeError? {disk : Disk} {path : Path} (h : path.IsPlain)
    (hnone : disk.writeError? path = none) : disk.node? (disk.placeOf path) ≠ some .directory := by
  have hwrite := disk.write_eq h []
  rw [hnone] at hwrite
  obtain ⟨place, hlocate, hplace, -⟩ := write_eq_ok_iff.1 hwrite
  rw [h.locateFile_eq, locate_of_writeError? h hnone] at hlocate
  rwa [Except.ok.inj hlocate]

/-- A file that can be read can be written, as long as the directories stay. -/
theorem writeError?_of_read {disk other : Disk} {path : Path} {chars : Text} (h : path.IsPlain)
    (hread : disk.read path = .ok chars) (hsame : SameDirectories disk other) :
    other.writeError? path = none := by
  obtain ⟨place, hlocate, hnode⟩ := read_eq_ok_iff.1 hread
  have hplace : other.node? place ≠ some .directory := by
    intro hdir
    rw [(hsame.directory_iff place).2 hdir] at hnode
    simp at hnode
  have hwrite : other.write path [] = .ok (other.put place (.file (.text []))) := by
    refine write_eq_ok_iff.2 ⟨place, ?_, hplace, rfl⟩
    rw [h.locateFile_eq]
    exact hsame.locate_eq_ok hlocate
  rw [writeError?, hwrite]

end CodeMigration.Disk
