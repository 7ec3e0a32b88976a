import CodeMigration.Proofs.Selections

/-!
# CodeMigration.Proofs.Layouts

What a walk depends on: which files and directories there are, and what the ignore files say. The
names of ignore files have no extension. So a walk finds the same on two disks that have the same
layout, that is, if only texts of files with an extension are different (`SameLayout.scan_eq`).

A run over files with an extension keeps the layout if it leaves no copies, since a file is only
written where one was read (`Run.sameLayout_processAll`).
-/

namespace CodeMigration

namespace Disk

/-- The places of a disk, each with what a walk sees there: is it a directory? -/
def kinds (disk : Disk) : List (Place × Bool) :=
  disk.nodes.map fun entry => (entry.1, entry.2 == .directory)

/-- The disks differ at most in what files with an extension hold. -/
structure SameLayout (disk other : Disk) : Prop where
  home : disk.home = other.home
  kinds : disk.kinds = other.kinds
  node : ∀ directory name, (Path.splitExtension name).2 = none →
    disk.node? (directory ++ [name]) = other.node? (directory ++ [name])

theorem SameLayout.refl (disk : Disk) : SameLayout disk disk := ⟨rfl, rfl, fun _ _ _ => rfl⟩

theorem SameLayout.trans {disk other third : Disk} (h : SameLayout disk other)
    (h' : SameLayout other third) : SameLayout disk third :=
  ⟨h.home.trans h'.home, h.kinds.trans h'.kinds, fun directory name hname =>
    (h.node directory name hname).trans (h'.node directory name hname)⟩

/-! ### Walks -/

theorem kind?_eq_lookup (disk : Disk) (place : Place) :
    disk.kind? place = if place = [] then some true else disk.kinds.lookup place := by
  unfold kind? node? kinds
  split
  · rfl
  · induction disk.nodes with
    | nil => rfl
    | cons entry rest ih =>
        rw [List.map_cons, List.lookup_cons, List.lookup_cons]
        cases place == entry.1 with
        | true => rfl
        | false => exact ih

theorem kind?_eq_true_iff {disk : Disk} {place : Place} :
    disk.kind? place = some true ↔ disk.node? place = some .directory := by
  simp [kind?]

theorem places_eq_map_kinds (disk : Disk) : disk.places = disk.kinds.map Prod.fst := by
  simp [places, kinds]

/-- Directories that say something are found by their entries. -/
theorem ofDisk_eq_places (disk : Disk) :
    IgnoreLevel.ofDisk disk = ((disk.places.filterMap fun place =>
      if [IgnoreLevel.plainName, IgnoreLevel.versionedName, IgnoreLevel.repositoryName].contains
        (place.getLastD "") then some place.dropLast else none).eraseDups.mergeSort
          fun a b => b.length ≤ a.length).map (IgnoreLevel.ofDirectory disk) := by
  rw [places, List.filterMap_map]
  rfl

theorem filesBelow_eq (disk : Disk) (place : Place) :
    disk.filesBelow place = disk.kinds.filterMap fun entry =>
      if entry.2 then none
      else if place.isPrefixOf entry.1 then some (entry.1.drop place.length) else none := by
  unfold filesBelow kinds
  rw [List.filterMap_map]
  refine List.filterMap_congr fun entry _ => ?_
  obtain ⟨other, node⟩ := entry
  cases node <;> rfl

theorem walk_eq_of_kind? {disk other : Disk} (h : ∀ place, disk.kind? place = other.kind? place)
    (here : Place) (parts : List String) : disk.walk here parts = other.walk here parts := by
  induction parts generalizing here with
  | nil => rfl
  | cons part parts ih =>
      rw [walk, walk, step_congr (h here)]
      cases other.step here part with
      | error cause => rfl
      | ok next => exact ih next

namespace SameLayout

variable {disk other : Disk} (h : SameLayout disk other)

include h

theorem kind?_eq (place : Place) : disk.kind? place = other.kind? place := by
  rw [kind?_eq_lookup, kind?_eq_lookup, h.kinds]

theorem locate_eq (path : Path) : disk.locate path = other.locate path := by
  unfold locate start
  rw [h.home, walk_eq_of_kind? h.kind?_eq]

theorem ofDirectory_eq (directory : Place) :
    IgnoreLevel.ofDirectory disk directory = IgnoreLevel.ofDirectory other directory := by
  have hexclude : directory ++ [IgnoreLevel.repositoryName, "info", "exclude"] =
      directory ++ [IgnoreLevel.repositoryName, "info"] ++ ["exclude"] := by
    simp
  unfold IgnoreLevel.ofDirectory IgnoreLevel.rulesAt
  rw [hexclude, h.node directory IgnoreLevel.plainName (by decide),
    h.node directory IgnoreLevel.versionedName (by decide),
    h.node (directory ++ [IgnoreLevel.repositoryName, "info"]) "exclude" (by decide),
    h.node directory IgnoreLevel.repositoryName (by decide)]

theorem ofDisk_eq : IgnoreLevel.ofDisk disk = IgnoreLevel.ofDisk other := by
  have hplaces : disk.places = other.places := by
    rw [places_eq_map_kinds, places_eq_map_kinds, h.kinds]
  have hlevels : IgnoreLevel.ofDirectory disk = IgnoreLevel.ofDirectory other :=
    funext h.ofDirectory_eq
  rw [ofDisk_eq_places, ofDisk_eq_places, hplaces, hlevels]

/-- A walk finds the same files on disks with the same layout. -/
theorem scan_eq (root : Path) : disk.scan root = other.scan root := by
  have hdirectory : ∀ place,
      disk.node? place = some .directory ↔ other.node? place = some .directory := by
    intro place
    rw [← kind?_eq_true_iff, ← kind?_eq_true_iff, h.kind?_eq]
  unfold scan
  rw [h.locate_eq, h.ofDisk_eq]
  simp only [filesBelow_eq, h.kinds, hdirectory]

end SameLayout

/-! ### Runs without copies -/

theorem kinds_put {disk : Disk} {place : Place} {content : Content}
    (h : disk.nodes.lookup place = some (.file content)) (chars : Text) :
    disk.kinds = (disk.put place (.file (.text chars))).kinds := by
  obtain ⟨nodes, home⟩ := disk
  unfold kinds put
  dsimp only at h ⊢
  induction nodes with
  | nil => cases h
  | cons entry rest ih =>
      obtain ⟨other, old⟩ := entry
      rw [putNode]
      split
      · next heq =>
        subst heq
        rw [List.lookup_cons_self] at h
        cases h
        rfl
      · next hne =>
        rw [List.lookup_cons, beq_eq_false_iff_ne.2 hne] at h
        rw [List.map_cons, List.map_cons, ← ih h]

/-- Writing to a file with an extension keeps the layout. -/
theorem sameLayout_put {disk : Disk} {above : Place} {name : String} {content : Content}
    (hfile : disk.node? (above ++ [name]) = some (.file content))
    (hname : (Path.splitExtension name).2 ≠ none) (chars : Text) :
    SameLayout disk (disk.put (above ++ [name]) (.file (.text chars))) := by
  have hplace : above ++ [name] ≠ [] := by simp
  refine ⟨rfl, ?_, ?_⟩
  · rw [node?, if_neg hplace] at hfile
    exact kinds_put hfile chars
  · intro directory other hother
    rw [node?_put _ _ _ _ hplace, if_neg]
    intro heq
    obtain ⟨-, hlast⟩ := List.append_inj' heq rfl
    rw [List.singleton_inj] at hlast
    exact hname (hlast ▸ hother)

end Disk

namespace Path.IsPlain

variable {path : Path} (h : path.IsPlain)

include h

/-- A plain path below another one ends in a name. -/
theorem exists_parts_join_eq (root : Path) :
    ∃ front last, Disk.parts (root.join path) = front ++ [last] ∧ IsName last ∧
      path.extension? = (splitExtension last).2 := by
  obtain ⟨front, hparts⟩ := exists_parts_join h root
  obtain ⟨names, last, hpath⟩ : ∃ names last, Disk.parts path = names ++ [last] := by
    obtain ⟨names, last, hpath, -⟩ := Disk.exists_parts_withSuffix path "" (by simp)
    exact ⟨names, last, hpath⟩
  refine ⟨front ++ names, last, by rw [hparts, hpath, List.append_assoc],
    h last (by simp [hpath]), ?_⟩
  rw [extension?, h.components_eq, hpath]
  simp

/-- Where a text is written to a path below another one, there its file was read. -/
theorem locateFile_join (disk : Disk) (root : Path) :
    disk.locateFile (root.join path) = disk.locate (root.join path) := by
  obtain ⟨front, last, hparts, hlast, -⟩ := h.exists_parts_join_eq root
  unfold Disk.locateFile
  dsimp only
  split
  · next hend =>
    rw [hparts, List.reverse_append] at hend
    exact absurd (Option.some.inj hend) hlast.1
  · rfl

theorem exists_place_join {disk : Disk} {root : Path} {place : Place}
    (hlocate : disk.locate (root.join path) = .ok place) :
    ∃ above name, place = above ++ [name] ∧ path.extension? = (splitExtension name).2 := by
  obtain ⟨front, last, hparts, hlast, hextension⟩ := h.exists_parts_join_eq root
  have hwalk := (Disk.locate_eq_ok_iff.1 hlocate).2.2
  rw [hparts] at hwalk
  obtain ⟨above, -, hstep⟩ := Disk.walk_append_eq_ok hwalk
  exact ⟨above, last, Disk.step_of_name hlast hstep, hextension⟩

end Path.IsPlain

namespace Run

variable {run : Run} (hquiet : run.writer.dryRun = true ∨ run.writer.mode = .none)

include hquiet

theorem sameLayout_process {path : Path} (hplain : path.IsPlain)
    (hextension : path.extension?.isSome = true) (root : Path) (disk : Disk) :
    disk.SameLayout (run.process disk (root.join path)).1 := by
  rcases run.process_fst_cases disk (root.join path) with hsame | ⟨text, hread, hsave⟩
  · rw [hsame]
    exact .refl disk
  rw [hsave]
  unfold Writer.save
  split
  · exact .refl disk
  split
  · exact .refl disk
  · next hdry =>
    have hmode : run.writer.mode = .none := hquiet.resolve_left hdry
    unfold Writer.replace Writer.overwrite
    rw [hmode]
    dsimp only
    split
    · exact .refl disk
    · next after hwrite =>
      -- The text goes where the old one was read, and the name there has the extension.
      obtain ⟨place, hlocate, -, rfl⟩ := Disk.write_eq_ok_iff.1 hwrite
      rw [hplain.locateFile_join] at hlocate
      obtain ⟨found, hfound, hfile⟩ := Disk.read_eq_ok_iff.1 hread
      obtain rfl : found = place := Except.ok.inj (hfound.symm.trans hlocate)
      obtain ⟨above, name, rfl, hname⟩ := hplain.exists_place_join hlocate
      rw [hname] at hextension
      exact Disk.sameLayout_put hfile (Option.isSome_iff_ne_none.1 hextension) _

/-- A run without copies over files with an extension keeps the layout. -/
theorem sameLayout_processAll {paths : List Path} (hplain : ∀ path ∈ paths, path.IsPlain)
    (hextension : ∀ path ∈ paths, path.extension?.isSome = true) (root : Path) (disk : Disk) :
    disk.SameLayout (run.processAll disk (paths.map root.join)).1 := by
  induction paths generalizing disk with
  | nil => exact .refl disk
  | cons path paths ih =>
      obtain ⟨hpath, hplain⟩ := List.forall_mem_cons.1 hplain
      obtain ⟨hext, hextension⟩ := List.forall_mem_cons.1 hextension
      rw [List.map_cons, processAll_cons]
      exact (sameLayout_process hquiet hpath hext root disk).trans (ih hplain hextension _)

end Run

end CodeMigration
