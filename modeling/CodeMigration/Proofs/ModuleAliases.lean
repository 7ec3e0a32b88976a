import CodeMigration.Migration.NamedExports
import CodeMigration.Proofs.PathOrder

/-!
# CodeMigration.Proofs.ModuleAliases

The aliases by which a file is imported. They are read off the names of the file below the root,
whatever the root looks like: the path of a file below a root has the components of the root and
then the names (`Path.components_join`), so taking the root off leaves the names
(`Path.relativeTo?_join`), and the extension goes with the last dot of the last name
(`Path.splitExtension_append`). A file elsewhere has no alias.
-/

namespace CodeMigration

namespace Path

/-- An extension without dots is what stands behind the last dot of a name. -/
theorem splitExtension_append {stem extension : String} (hstem : stem ≠ "")
    (hextension : '.' ∉ extension.toList) :
    splitExtension (stem ++ "." ++ extension) = (stem, some extension) := by
  have hreversed : (stem ++ "." ++ extension).toList.reverse =
      extension.toList.reverse ++ '.' :: stem.toList.reverse := by simp
  have hback : ∀ c ∈ extension.toList.reverse, (c != '.') = true := by
    intro c hc
    rw [bne_iff_ne]
    rintro rfl
    exact hextension (List.mem_reverse.1 hc)
  obtain ⟨c, front, hfront⟩ := List.exists_cons_of_ne_nil (l := stem.toList.reverse) (by simpa using hstem)
  have htake : (extension.toList.reverse ++ '.' :: stem.toList.reverse).takeWhile (· != '.') =
      extension.toList.reverse := by
    rw [List.takeWhile_append_of_pos hback]
    simp
  have hdrop : (extension.toList.reverse ++ '.' :: stem.toList.reverse).dropWhile (· != '.') =
      '.' :: c :: front := by
    rw [List.dropWhile_append_of_pos hback, hfront]
    simp
  unfold splitExtension
  simp only [hreversed, htake, hdrop]
  simp only [← hfront, List.reverse_reverse, String.ofList_toList]

/-- What is left of a path below a root when the root is taken off. -/
theorem relativeTo?_join {path : Path} (h : path.IsPlain) (root : Path) :
    (root.join path).relativeTo? root = some path.components := by
  rw [relativeTo?, components_join h, if_pos (List.isPrefixOf_iff_prefix.2 (List.prefix_append _ _)),
    List.drop_left]

theorem relativeTo?_eq_none {file root : Path} (h : ¬ root.components <+: file.components) :
    file.relativeTo? root = none := by
  rw [relativeTo?, if_neg]
  exact fun hprefix => h (List.isPrefixOf_iff_prefix.1 hprefix)

theorem component?_of_isName {name : String} (h : IsName name) :
    component? name.toList = some (.name name) := by
  obtain ⟨hempty, hdot, hdots⟩ := h
  unfold component?
  split
  · next heq => exact absurd (String.toList_inj.1 heq) hempty
  · next heq => exact absurd (String.toList_inj.1 heq) hdot
  · next heq => exact absurd (String.toList_inj.1 heq) hdots
  · rw [String.ofList_toList]

end Path

/-- A name with an extension behind it is a name. -/
theorem IsEntryName.withExtension {stem extension : String} (h : IsEntryName stem)
    (hslash : '/' ∉ extension.toList) : IsEntryName (stem ++ "." ++ extension) := by
  have hsuffix : IsNameSuffix ("." ++ extension) := by
    refine ⟨?_, by simpa using hslash⟩
    intro hempty
    have hchars := congrArg String.toList hempty
    simp at hchars
  refine ⟨?_, by simpa using ⟨h.2, hslash⟩⟩
  rw [String.append_assoc]
  exact h.1.append hsuffix

namespace NamedExports

theorem moduleNames_names (dirs : List String) {stem extension : String} (hstem : IsName stem)
    (hextension : '.' ∉ extension.toList) :
    moduleNames ((dirs ++ [stem ++ "." ++ extension]).map .name) = dirs ++ [stem] := by
  have hdirs : ((dirs.map Component.name).map some).filterMap (·.bind Component.name?) = dirs := by
    rw [List.map_map, List.filterMap_map]
    exact List.filterMap_some
  have hlast : Path.component? (Path.splitExtension (stem ++ "." ++ extension)).1.toList =
      some (.name stem) := by
    rw [Path.splitExtension_append hstem.1 hextension, Path.component?_of_isName hstem]
  rw [moduleNames, List.map_append, List.map_singleton, List.getLast?_concat, List.dropLast_concat]
  show ((dirs.map Component.name).map some ++ [Path.component? _]).filterMap _ = _
  rw [hlast, List.filterMap_append, hdirs]
  rfl

/-- A file below a root is imported by the names on the way to it, the last one without its
extension; an index file in a directory also answers to the directory. A file elsewhere has no
alias. -/
theorem moduleSpecifiers_join (root : Path) {dirs : List String} {stem extension : String}
    (hdirs : ∀ dir ∈ dirs, IsEntryName dir) (hstem : IsEntryName stem)
    (hslash : '/' ∉ extension.toList) (hextension : '.' ∉ extension.toList) :
    moduleSpecifiers root (root.join (.ofNames (dirs ++ [stem ++ "." ++ extension]))) =
        ("@/" ++ "/".intercalate (dirs ++ [stem])) ::
          (if stem = "index" ∧ dirs ≠ [] then ["@/" ++ "/".intercalate dirs] else []) ∧
      ∀ file : Path, ¬ root.components <+: file.components → moduleSpecifiers root file = [] := by
  constructor
  · have hnames : ∀ name ∈ dirs ++ [stem ++ "." ++ extension], IsEntryName name :=
      List.forall_mem_append.2 ⟨hdirs, List.forall_mem_singleton.2 (hstem.withExtension hslash)⟩
    have hne : dirs ++ [stem ++ "." ++ extension] ≠ [] := by simp
    have hindex : ((stem == "index" && decide (1 < (dirs ++ [stem]).length)) = true) ↔
        stem = "index" ∧ dirs ≠ [] := by
      simp [List.length_pos_iff]
    rw [moduleSpecifiers, Path.relativeTo?_join (Path.isPlain_ofNames hne hnames),
      Path.components_ofNames hne hnames]
    simp only [moduleNames_names dirs hstem.1 hextension, List.getLast?_concat,
      List.dropLast_concat, hindex]
    rfl
  · intro file hfile
    rw [moduleSpecifiers, Path.relativeTo?_eq_none hfile]

/-- An index file in a directory whose name has dots, below a root with a separator at its end. -/
theorem moduleSpecifiers_join_index :
    let root : Path := "./app//src/"
    let dirs : List String := ["hooks", ".orders.v2"]
    (∀ dir ∈ dirs, IsEntryName dir) ∧ IsEntryName "index" ∧
      '/' ∉ "tsx".toList ∧ '.' ∉ "tsx".toList ∧
      root.join (.ofNames (dirs ++ ["index" ++ "." ++ "tsx"])) =
        ⟨"./app//src/hooks/.orders.v2/index.tsx"⟩ ∧
      moduleSpecifiers root (root.join (.ofNames (dirs ++ ["index" ++ "." ++ "tsx"]))) =
        ["@/hooks/.orders.v2/index", "@/hooks/.orders.v2"] := by
  intro root dirs
  have hdirs : ∀ dir ∈ dirs, IsEntryName dir := by decide
  have hindex : IsEntryName "index" := by decide
  have hslash : '/' ∉ "tsx".toList := by decide
  have hdot : '.' ∉ "tsx".toList := by decide
  exact ⟨hdirs, hindex, hslash, hdot, by decide,
    (moduleSpecifiers_join root hdirs hindex hslash hdot).1⟩

end NamedExports

end CodeMigration
