import CodeMigration.Proofs.Layouts
import CodeMigration.Proofs.WalkOrders

/-!
# CodeMigration.Proofs.ProjectPlaces

Whether it matters where a project lies. Where no ignore file has a say, a walk finds all files
below its root that are not in a repository's own directory (`Disk.scan_of_unignored`), and the
files are chosen by their paths from the root on. So the same tree of files gives the same choice at
two places (`Selector.chosen_eq_of_sameBelow`), with one exception: the path of the root is searched
for the name of a repository's own directory as well, and a root with that name in its path has no
files at all (`Selector.chosen_of_isInRepository`). The choices from two roots are therefore the
same unless just one of the roots is such, and there is a file to choose
(`Selector.chosenBelow_eq_iff`).
-/

namespace CodeMigration

/-! ### Walks without ignore files -/

namespace IgnoreLevel

/-- The ignore files of a directory, as they are called from there on. -/
def fileNames : List Place := [[plainName], [versionedName], [repositoryName, "info", "exclude"]]

/-- The level has no lines, so it says nothing. -/
def IsSilent (level : IgnoreLevel) : Prop :=
  level.plain = [] ∧ level.versioned = [] ∧ level.excluded = []

theorem mem_of_mem_repository {levels : List IgnoreLevel} {level : IgnoreLevel}
    (h : level ∈ repository levels) : level ∈ levels := by
  have htop : ∀ levels, level ∈ repository.upToTop levels → level ∈ levels := by
    intro levels
    induction levels with
    | nil => exact id
    | cons first levels ih =>
        rw [repository.upToTop, List.mem_cons]
        split
        · exact fun hmem => .inl (List.mem_singleton.1 hmem)
        · exact fun hmem => (List.mem_cons.1 hmem).imp_right ih
  unfold repository at h
  split at h
  · exact htop levels h
  · cases h

/-- Nothing is said about an entry if all levels above it are silent. -/
theorem verdict?_eq_none {levels : List IgnoreLevel} {place : Place}
    (h : ∀ level ∈ levels, level.directory <+: place → level.IsSilent) (isDirectory : Bool) :
    verdict? levels place isDirectory = none := by
  have habove : ∀ level ∈ levels.filter fun level =>
      level.directory.isPrefixOf place && level.directory.length < place.length,
      level.IsSilent := by
    intro level hlevel
    obtain ⟨hmem, hprefix⟩ := List.mem_filter.1 hlevel
    rw [Bool.and_eq_true, List.isPrefixOf_iff_prefix] at hprefix
    exact h level hmem hprefix.1
  unfold verdict?
  simp only [Option.orElse_eq_orElse, Option.orElse_eq_or, Option.or_eq_none_iff,
    List.findSome?_eq_none_iff]
  refine ⟨fun level hlevel => ?_, fun level hlevel => ?_, fun level hlevel => ?_⟩
  · rw [(habove level hlevel).1]
    rfl
  · rw [(habove level (mem_of_mem_repository hlevel)).2.1]
    rfl
  · rw [(habove level (mem_of_mem_repository hlevel)).2.2]
    rfl

end IgnoreLevel

namespace Disk

/-- There is no ignore file in a directory below the place, in the place itself or above it. -/
def Unignored (disk : Disk) (place : Place) : Prop :=
  ∀ directory, directory <+: place ∨ place <+: directory → ∀ names ∈ IgnoreLevel.fileNames,
    ∀ content, disk.node? (directory ++ names) ≠ some (.file content)

/-- Whether a disk has ignore files can be seen from its nodes. -/
theorem unignored_of_nodes {disk : Disk}
    (h : ∀ entry ∈ disk.nodes, ∀ names ∈ IgnoreLevel.fileNames, ¬ names <:+ entry.1)
    (place : Place) : disk.Unignored place := by
  intro directory _ names hnames content hnode
  have hne : directory ++ names ≠ [] := by
    intro heq
    rw [(List.append_eq_nil_iff.1 heq).2] at hnames
    exact absurd hnames (by decide)
  exact h _ (mem_nodes_of_node? hne hnode) names hnames (List.suffix_append directory names)

section

variable {disk : Disk} {place : Place}

theorem isSilent_ofDirectory (h : disk.Unignored place) {directory : Place}
    (hdirectory : directory <+: place ∨ place <+: directory) :
    (IgnoreLevel.ofDirectory disk directory).IsSilent := by
  have hrules : ∀ names ∈ IgnoreLevel.fileNames,
      IgnoreLevel.rulesAt disk (directory ++ names) = [] := by
    intro names hnames
    unfold IgnoreLevel.rulesAt
    split
    · next hnode => exact absurd hnode (h directory hdirectory names hnames _)
    · rfl
  exact ⟨hrules _ (by decide), hrules _ (by decide), hrules _ (by decide)⟩

/-- Without ignore files a walk gets everywhere. -/
theorem isReached_of_unignored (h : disk.Unignored place) (names : List String) :
    isReached (IgnoreLevel.ofDisk disk) place names = true := by
  unfold isReached
  refine List.all_eq_true.2 fun depth _ => ?_
  have hsilent : ∀ level ∈ IgnoreLevel.ofDisk disk,
      level.directory <+: place ++ names.take (depth + 1) → level.IsSilent := by
    intro level hlevel hprefix
    obtain ⟨directory, -, rfl⟩ := List.mem_map.1 hlevel
    exact isSilent_ofDirectory h
      (List.prefix_or_prefix_of_prefix hprefix (List.prefix_append place _))
  rw [IgnoreLevel.verdict?_eq_none hsilent]
  rfl

end

/-! ### Trees at a place -/

/-- The path leads to a project: a directory of a tree, where no ignore file has a say. -/
structure LeadsToProject (disk : Disk) (root : Path) (place : Place) : Prop where
  tree : disk.IsTree
  locate : disk.locate root = .ok place
  directory : disk.node? place = some .directory
  unignored : disk.Unignored place

/-- The same files and directories stand below the two places. -/
def SameBelow (disk : Disk) (place : Place) (other : Disk) (place' : Place) : Prop :=
  ∀ names, disk.kind? (place ++ names) = other.kind? (place' ++ names)

/-- There is a file some names below the place, and it is not in a repository's own directory. -/
def HasFile (disk : Disk) (place : Place) (names : List String) : Prop :=
  disk.kind? (place ++ names) = some false ∧ IgnoreLevel.repositoryName ∉ names

theorem SameBelow.hasFile_iff {disk other : Disk} {place place' : Place}
    (h : disk.SameBelow place other place') {names : List String} :
    disk.HasFile place names ↔ other.HasFile place' names := by
  rw [HasFile, HasFile, h names]

/-- Where all places are different, every node of the list is found. -/
theorem node?_eq_some_iff {disk : Disk} (h : disk.places.Nodup) {place : Place} (hne : place ≠ [])
    {node : Node} : disk.node? place = some node ↔ (place, node) ∈ disk.nodes := by
  refine ⟨mem_nodes_of_node? hne, fun hmem => ?_⟩
  obtain ⟨front, back, hnodes⟩ := List.append_of_mem hmem
  rw [places, hnodes, List.map_append, List.map_cons, List.nodup_append] at h
  rw [node?, if_neg hne, List.lookup_eq_some_iff]
  refine ⟨front, back, hnodes, fun entry hentry => bne_iff_ne.2 fun heq => ?_⟩
  exact h.2.2 _ (List.mem_map_of_mem hentry) place List.mem_cons_self heq.symm

theorem kind?_eq_false_iff {disk : Disk} (h : disk.places.Nodup) {place : Place}
    (hne : place ≠ []) :
    disk.kind? place = some false ↔ ∃ content, (place, .file content) ∈ disk.nodes := by
  simp only [← node?_eq_some_iff h hne, kind?, Option.map_eq_some_iff]
  constructor
  · intro hfile
    obtain ⟨node, hnode, hkind⟩ := hfile
    cases node with
    | file content => exact ⟨content, hnode⟩
    | directory => cases hkind
  · intro hfile
    obtain ⟨content, hnode⟩ := hfile
    exact ⟨_, hnode, rfl⟩

theorem mem_filesBelow_iff {disk : Disk} {place names : Place} :
    names ∈ disk.filesBelow place ↔ ∃ content, (place ++ names, .file content) ∈ disk.nodes := by
  unfold filesBelow
  rw [List.mem_filterMap]
  constructor
  · intro h
    obtain ⟨⟨other, node⟩, hentry, hnames⟩ := h
    cases node with
    | directory => cases hnames
    | file content =>
        simp only [Option.ite_none_right_eq_some, Option.some.injEq,
          List.isPrefixOf_iff_prefix] at hnames
        obtain ⟨⟨rest, rfl⟩, rfl⟩ := hnames
        rw [List.drop_left]
        exact ⟨content, hentry⟩
  · intro h
    obtain ⟨content, hentry⟩ := h
    exact ⟨_, hentry, by simp⟩

end Disk

/-- Is the path that of a repository's own directory, or of something in it? -/
def Path.IsInRepository (path : Path) : Prop :=
  Component.name IgnoreLevel.repositoryName ∈ path.components

instance (path : Path) : Decidable path.IsInRepository := inferInstanceAs (Decidable (_ ∈ _))

/-! ### What is chosen -/

namespace Disk.LeadsToProject

variable {disk : Disk} {root : Path} {place : Place} (h : disk.LeadsToProject root place)

include h

theorem scan_of_isInRepository (hroot : root.IsInRepository) : disk.scan root = [] := by
  unfold scan
  rw [h.locate]
  exact if_neg fun hfree => hfree.2 hroot

/-- A walk finds all files that it can look at. -/
theorem scan_of_not_isInRepository (hroot : ¬ root.IsInRepository) :
    disk.scan root = ((disk.filesBelow place).filter fun names =>
      !names.contains IgnoreLevel.repositoryName).map Path.ofNames := by
  unfold scan
  rw [h.locate]
  dsimp only
  rw [if_pos ⟨h.directory, hroot⟩]
  simp only [isReached_of_unignored h.unignored, Bool.and_true]

/-- The files that are taken are those below the root that the choice accepts. -/
theorem mem_filter_scan_iff (hroot : ¬ root.IsInRepository) {selector : Selector} {path : Path} :
    path ∈ (disk.scan root).filter selector.accepts ↔
      selector.accepts path = true ∧ ∃ names, disk.HasFile place names ∧
        Path.ofNames names = path := by
  rw [h.scan_of_not_isInRepository hroot, List.mem_filter, and_comm]
  refine and_congr_right fun haccepts => ?_
  simp only [List.mem_map, List.mem_filter, Bool.not_eq_true', List.contains_eq_mem,
    decide_eq_false_iff_not, mem_filesBelow_iff, HasFile]
  refine exists_congr fun names => and_congr_left fun hpath => and_congr_left fun _ => ?_
  -- The place has a name at least, since a path of no names has no extension.
  have hne : place ++ names ≠ [] := by
    intro heq
    rw [← hpath, (List.append_eq_nil_iff.1 heq).2] at haccepts
    exact absurd (Selector.extension?_of_accepts haccepts) (by decide)
  exact (kind?_eq_false_iff h.tree.distinct hne).symm

end Disk.LeadsToProject

namespace Selector

/-- The choice from another root. -/
def withRoot (selector : Selector) (root : Path) : Selector := { selector with root := root }

theorem accepts_withRoot (selector : Selector) (root : Path) :
    (selector.withRoot root).accepts = selector.accepts := rfl

theorem ofSettings_withRoot (root root' : Path) (files : FileSettings) (extra : List String) :
    ofSettings root' files extra =
      (ofSettings root files extra).map fun selector => selector.withRoot root' := by
  unfold ofSettings
  cases readGlobs (files.exclude ++ extra) <;> rfl

theorem root_of_ofSettings {root : Path} {files : FileSettings} {extra : List String}
    {selector : Selector} (h : ofSettings root files extra = .ok selector) :
    selector.root = root := by
  obtain ⟨everything, further, -, hroot, -, rfl⟩ := ofSettings_eq_ok h
  exact hroot

section

variable {disk other : Disk} {root' : Path} {place place' : Place}

/-- From a root in a repository's own directory nothing is chosen. -/
theorem chosen_of_isInRepository (selector : Selector) (h : disk.LeadsToProject selector.root place)
    (hroot : selector.root.IsInRepository) : selector.chosen disk = [] := by
  rw [chosen, h.scan_of_isInRepository hroot, List.filter_nil, List.mergeSort_nil]

/-- From any other root nothing is chosen just if no file is accepted. -/
theorem chosen_eq_nil_iff (selector : Selector) (h : disk.LeadsToProject selector.root place)
    (hroot : ¬ selector.root.IsInRepository) :
    selector.chosen disk = [] ↔
      ∀ names, disk.HasFile place names → selector.accepts (Path.ofNames names) = false := by
  have hperm := List.mergeSort_perm ((disk.scan selector.root).filter selector.accepts) Path.le
  rw [chosen, List.eq_nil_iff_forall_not_mem]
  simp only [hperm.mem_iff, h.mem_filter_scan_iff hroot]
  constructor
  · intro hnone names hfile
    rw [← Bool.not_eq_true]
    exact fun haccepts => hnone _ ⟨haccepts, names, hfile, rfl⟩
  · intro hnone path hpath
    obtain ⟨haccepts, names, hfile, rfl⟩ := hpath
    rw [hnone names hfile] at haccepts
    cases haccepts

/-- The same tree of files gives the same choice from both roots. -/
theorem chosen_eq_of_sameBelow (selector : Selector)
    (h : disk.LeadsToProject selector.root place) (h' : other.LeadsToProject root' place')
    (hsame : disk.SameBelow place other place')
    (hroot : ¬ selector.root.IsInRepository) (hroot' : ¬ root'.IsInRepository) :
    selector.chosen disk = (selector.withRoot root').chosen other := by
  have hlisted := listed_filter h.tree selector selector.root
  have hlisted' := listed_filter h'.tree selector root'
  have hperm : ((disk.scan selector.root).filter selector.accepts).Perm
      ((other.scan root').filter selector.accepts) := by
    rw [List.perm_ext_iff_of_nodup hlisted.distinct.of_map hlisted'.distinct.of_map]
    intro path
    rw [h.mem_filter_scan_iff hroot, h'.mem_filter_scan_iff hroot']
    simp only [hsame.hasFile_iff]
  exact Path.mergeSort_eq_of_perm hperm hlisted.distinct

/-- The choices from two roots are different just if one of them is nothing, and the other is
not. -/
theorem map_components_chosen_eq_iff (selector : Selector)
    (h : disk.LeadsToProject selector.root place) (h' : other.LeadsToProject root' place')
    (hsame : disk.SameBelow place other place') :
    (selector.chosen disk).map Path.components =
        ((selector.withRoot root').chosen other).map Path.components ↔
      (selector.root.IsInRepository ↔ root'.IsInRepository) ∨
        ∀ names, disk.HasFile place names → selector.accepts (Path.ofNames names) = false := by
  have hnil := chosen_of_isInRepository selector h
  have hnil' := chosen_of_isInRepository (selector.withRoot root') h'
  by_cases hroot : selector.root.IsInRepository <;> by_cases hroot' : root'.IsInRepository
  · simp [hroot, hroot', hnil hroot, hnil' hroot']
  · have hnone : (selector.withRoot root').chosen other = [] ↔ _ := chosen_eq_nil_iff _ h' hroot'
    simp only [← hsame.hasFile_iff, accepts_withRoot] at hnone
    rw [hnil hroot, List.map_nil, eq_comm, List.map_eq_nil_iff, hnone]
    simp only [hroot, hroot', iff_false, not_true, false_or]
  · rw [hnil' hroot', List.map_nil, List.map_eq_nil_iff, chosen_eq_nil_iff selector h hroot]
    simp only [hroot, hroot', false_iff, not_true, false_or]
  · rw [chosen_eq_of_sameBelow selector h h' hsame hroot hroot']
    simp [hroot, hroot']

end

end Selector

/-! ### Choices from two roots -/

theorem Path.IsPlain.relativeTo?_join {path : Path} (h : path.IsPlain) (root : Path) :
    (root.join path).relativeTo? root = some path.components := by
  rw [relativeTo?, components_join h, if_pos (by simp), List.drop_left]

namespace Selector

/-- The files that are chosen below the root, each by its components from the root on. -/
def chosenBelow (disk : Disk) (root : Path) (files : FileSettings) (extra : List String) :
    Except SettingsError (List (Option (List Component))) :=
  (ofSettings root files extra).map fun selector =>
    (selector.select disk).map fun path => path.relativeTo? root

theorem chosenBelow_of_error {disk : Disk} {root : Path} {files : FileSettings}
    {extra : List String} {cause : SettingsError} (h : ofSettings root files extra = .error cause) :
    chosenBelow disk root files extra = .error cause := by
  rw [chosenBelow, h]
  rfl

theorem chosenBelow_of_ofSettings {disk : Disk} {root : Path} {files : FileSettings}
    {extra : List String} {selector : Selector} (htree : disk.IsTree)
    (h : ofSettings root files extra = .ok selector) :
    chosenBelow disk root files extra =
      .ok (((selector.chosen disk).map Path.components).map some) := by
  have hrelative : (selector.select disk).map (fun path => path.relativeTo? root) =
      ((selector.chosen disk).map Path.components).map some := by
    rw [select_eq, List.map_map, List.map_map, root_of_ofSettings h]
    refine List.map_congr_left fun path hpath => ?_
    exact ((listed_chosen htree selector).plain path hpath).relativeTo?_join root
  rw [chosenBelow, h, ← hrelative]
  rfl

/-- The same tree of files gives the same choice from two roots, unless just one of the roots is in
a repository's own directory and some file is accepted. -/
theorem chosenBelow_eq_iff {disk other : Disk} {root root' : Path} {place place' : Place}
    (h : disk.LeadsToProject root place) (h' : other.LeadsToProject root' place')
    (hsame : disk.SameBelow place other place') (files : FileSettings) (extra : List String) :
    chosenBelow disk root files extra = chosenBelow other root' files extra ↔
      (root.IsInRepository ↔ root'.IsInRepository) ∨
        ∀ selector, ofSettings root files extra = .ok selector →
          ∀ names, disk.HasFile place names → selector.accepts (Path.ofNames names) = false := by
  cases hselector : ofSettings root files extra with
  | error cause =>
      -- Settings that cannot be read are no better from another root.
      have hselector' : ofSettings root' files extra = .error cause := by
        rw [ofSettings_withRoot root, hselector]
        rfl
      refine iff_of_true ?_ (.inr fun selector hok => ?_)
      · rw [chosenBelow_of_error hselector, chosenBelow_of_error hselector']
      · cases hok
  | ok selector =>
      obtain rfl := root_of_ofSettings hselector
      have hselector' : ofSettings root' files extra = .ok (selector.withRoot root') := by
        rw [ofSettings_withRoot selector.root, hselector]
        rfl
      have hinj : Function.Injective (List.map (some : List Component → _)) :=
        List.map_injective_iff.2 fun _ _ => Option.some.inj
      rw [chosenBelow_of_ofSettings h.tree hselector, chosenBelow_of_ofSettings h'.tree hselector',
        Except.ok.injEq, hinj.eq_iff, map_components_chosen_eq_iff selector h h' hsame]
      simp only [Except.ok.injEq, forall_eq']

/-- Three copies of a project, one of them in a repository's own directory. -/
def threeCopies : Disk where
  nodes :=
    [(["app"], .directory), (["app", "a.ts"], .file (.text [])),
     (["old"], .directory), (["old", "app"], .directory),
     (["old", "app", "a.ts"], .file (.text [])),
     ([".git"], .directory), ([".git", "app"], .directory),
     ([".git", "app", "a.ts"], .file (.text []))]

theorem leadsToProject_threeCopies {root : Path} {place : Place}
    (hlocate : threeCopies.locate root = .ok place)
    (hdirectory : threeCopies.node? place = some .directory) :
    threeCopies.LeadsToProject root place :=
  ⟨⟨by decide, by decide, by decide⟩, hlocate, hdirectory,
    Disk.unignored_of_nodes (by decide) place⟩

theorem sameBelow_threeCopies {copy : Place} (hcopy : copy ∈ [["old", "app"], [".git", "app"]]) :
    threeCopies.SameBelow ["app"] threeCopies copy := by
  intro names
  simp only [List.mem_cons, List.not_mem_nil, or_false] at hcopy
  rcases hcopy with rfl | rfl <;>
    simp [Disk.kind?, Disk.node?, threeCopies, List.lookup_cons]

/-- From the roots of the first two copies the same is chosen. -/
theorem chosenBelow_eq_iff_two_copies :
    threeCopies.LeadsToProject "app" ["app"] ∧
    threeCopies.LeadsToProject "./old/app/" ["old", "app"] ∧
    threeCopies.SameBelow ["app"] threeCopies ["old", "app"] ∧
    ∀ files extra, chosenBelow threeCopies "app" files extra =
      chosenBelow threeCopies "./old/app/" files extra := by
  have h : threeCopies.LeadsToProject "app" ["app"] :=
    leadsToProject_threeCopies (by decide) (by decide)
  have h' : threeCopies.LeadsToProject "./old/app/" ["old", "app"] :=
    leadsToProject_threeCopies (by decide) (by decide)
  have hsame : threeCopies.SameBelow ["app"] threeCopies ["old", "app"] :=
    sameBelow_threeCopies (by decide)
  exact ⟨h, h', hsame, fun files extra =>
    (chosenBelow_eq_iff h h' hsame files extra).2 (.inl (by decide))⟩

/-- From the root of the third copy nothing is chosen, though it has a file. -/
theorem not_chosenBelow_eq_in_repository :
    threeCopies.LeadsToProject "app" ["app"] ∧
    threeCopies.LeadsToProject ".git/app" [".git", "app"] ∧
    threeCopies.SameBelow ["app"] threeCopies [".git", "app"] ∧
    let files : FileSettings := { extensions := ["ts"], exclude := [] }
    chosenBelow threeCopies "app" files [] ≠ chosenBelow threeCopies ".git/app" files [] := by
  have h : threeCopies.LeadsToProject "app" ["app"] :=
    leadsToProject_threeCopies (by decide) (by decide)
  have h' : threeCopies.LeadsToProject ".git/app" [".git", "app"] :=
    leadsToProject_threeCopies (by decide) (by decide)
  refine ⟨h, h', sameBelow_threeCopies (by decide), ?_⟩
  intro files heq
  let selector : Selector := ⟨"app", ["ts"], []⟩
  have hselector : ofSettings "app" files [] = .ok selector := rfl
  have hselector' : ofSettings ".git/app" files [] = .ok (selector.withRoot ".git/app") := rfl
  have hchosen : selector.chosen threeCopies = [] := by
    rw [chosenBelow_of_ofSettings h.tree hselector, chosenBelow_of_ofSettings h'.tree hselector',
      chosen_of_isInRepository (selector.withRoot ".git/app") h' (by decide)] at heq
    exact List.map_eq_nil_iff.1 (List.map_eq_nil_iff.1 (Except.ok.inj heq))
  have hfile : threeCopies.HasFile ["app"] ["a.ts"] := ⟨by decide, by decide⟩
  have hnone := (chosen_eq_nil_iff selector h (by decide)).1 hchosen ["a.ts"] hfile
  exact absurd hnone (by decide)

end Selector

end CodeMigration
