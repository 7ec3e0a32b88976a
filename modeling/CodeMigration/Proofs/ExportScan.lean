import CodeMigration.Proofs.ExportPasses
import CodeMigration.Proofs.ExportedNames

/-!
# CodeMigration.Proofs.ExportScan

The scan for the name that importing files will use, against what the migration does. The
two are written apart, and they can disagree:

* the rules want the words `export default` with a single space between them, the scan
  takes any white space;
* the scan finds classes that are said to be asynchronous, for which there is no rule;
* where a text has several default exports, the one that is found may not be the one that
  is converted, and a moved line may take a name away with it.

`scanAgrees_iff` says just when the scan finds something in those texts that change, and what is
enough for the name to be exported there. Wherever a rule fires the scan finds a name
(`isSome_defaultExportName?_iff`, `changed_iff`), so the migration never converts a module
behind the back of its importers; it is the other way round that fails.
-/

namespace CodeMigration.NamedExports

open Pattern

/-! ### When the scan finds something -/

theorem occurs_defaultDeclaration_iff {text : Text} :
    defaultDeclaration.Occurs [] text ↔ functions.pattern.Occurs [] text ∨
      classes.pattern.Occurs [] text ∨ asyncClasses.pattern.Occurs [] text := by
  simp only [Occurs, fits_defaultDeclaration_iff, and_or_left, exists_or]

/-- The scan finds a name where a rule could convert something, and for classes that are
said to be asynchronous. -/
theorem isSome_defaultExportName?_iff (text : Text) :
    (defaultExportName? text).isSome = true ↔
      Convertible text ∨ asyncClasses.pattern.Occurs [] text := by
  have hlines : (((trailingDefault.matchesIn text).map fun m => m.group exportGroup).find? fun name =>
      (declarationStart? text name).isSome).isSome = true ↔ trailingEdits text ≠ [] := by
    rw [List.find?_isSome, trailingEdits_ne_nil_iff]
    simp
  have hfound : defaultDeclaration.isMatch text = true ↔ _ :=
    (isMatch_iff isPlain_defaultDeclaration text).trans occurs_defaultDeclaration_iff
  unfold isMatch at hfound
  unfold defaultExportName? Convertible
  cases hfind : defaultDeclaration.find? text with
  | some m =>
      rw [hfind] at hfound
      refine iff_of_true rfl ?_
      rcases hfound.1 rfl with hfunction | hclass | hasync
      · exact .inl (.inl hfunction)
      · exact .inl (.inr (.inl hclass))
      · exact .inr hasync
  | none =>
      rw [hfind] at hfound
      have hno := (not_congr hfound).1 (by simp)
      rw [not_or, not_or] at hno
      rw [hlines, or_iff_right hno.1, or_iff_right hno.2.1, or_iff_left hno.2.2]

/-- The migration changes a text with the words `export default` and something that a
rule could convert. -/
theorem changed_iff (text : Text) :
    (migration.migrate text).changed = true ↔
      Text.occurs "export default".toList text = true ∧ Convertible text := by
  rw [Migration.changed_migrate_iff, ← not_iff_not, ← forall_fires_eq_false_iff]
  simp

/-! ### When the scan and the migration agree -/

/-- The scan finds a name just if the migration changes the text, and the result exports
the declaration of that name. -/
def ScanAgrees (text : Text) : Prop :=
  (defaultExportName? text).isSome = (migration.migrate text).changed ∧
    ∀ name ∈ defaultExportName? text, DeclaresExport name (migration.migrate text).after

instance (text : Text) : Decidable (ScanAgrees text) := inferInstanceAs (Decidable (_ ∧ _))

/-- All default exports in the text that the scan can find are of the kind. -/
def Kind.Alone (K : Kind) (text : Text) : Prop :=
  ∀ b a, text = b.reverse ++ a → defaultDeclaration.Fits b a → K.pattern.Fits b a

/-- The default exports of the text do not get in each other's way. All are of one kind
that there is a rule for, and no line is moved behind that rule; or all are lines, and
the declaration found for the name is not touched by moving them. -/
def Orderly (text : Text) : Prop :=
  if defaultDeclaration.isMatch text then
    (functions.Alone text ∨ classes.Alone text) ∧ trailingEdits (afterClasses text) = []
  else ∀ name ∈ defaultExportName? text, Untouched text name

theorem Kind.Alone.not_occurs {K L : Kind} (hne : ∀ c ∈ K.initials, c ∉ L.initials)
    (hany : ∀ h, L.Head h → AnyHead h) {text : Text} (h : K.Alone text) :
    ¬ L.pattern.Occurs [] text := by
  rintro ⟨u, v, rfl, hfits⟩
  obtain ⟨hu, hopens⟩ := Kind.fits_pattern_iff.1 hfits
  have hfound := fits_defaultDeclaration.2 ⟨hu, opens_exportHead_mono hany hopens⟩
  exact Kind.not_fits_of_fits hne (h _ v (by simp) hfound) hfits

theorem afterFunctions_of_not_occurs {text : Text} (h : ¬ functions.pattern.Occurs [] text) :
    afterFunctions text = text := by
  refine Rule.run_of_not_fires (Bool.eq_false_iff.2 fun hfires => h ?_)
  exact ((Kind.fires_declarationRule_iff (K := functions)).1 hfires).2

theorem afterClasses_of_not_occurs {text : Text}
    (h : ¬ classes.pattern.Occurs [] (afterFunctions text)) :
    afterClasses text = afterFunctions text := by
  refine Rule.run_of_not_fires (Bool.eq_false_iff.2 fun hfires => h ?_)
  exact ((Kind.fires_declarationRule_iff (K := classes)).1 hfires).2

/-- In a text with default exports of one kind only the rule for that kind has an effect. -/
theorem afterClasses_of_alone {text : Text}
    (hwords : Text.occurs "export default".toList text = true)
    (h : functions.Alone text ∨ classes.Alone text) :
    (functions.Alone text ∧ afterClasses text = functions.pattern.replaceAll exportNamed text) ∨
      classes.Alone text ∧ afterClasses text = classes.pattern.replaceAll exportNamed text := by
  rcases h with h | h
  · have hafter : afterFunctions text = functions.pattern.replaceAll exportNamed text :=
      Rule.run_of_trigger ((trigger_eq_occurs (K := functions) text).trans hwords)
    have hno : ¬ classes.pattern.Occurs [] (afterFunctions text) := by
      rw [hafter, Kind.occurs_apply_iff_of_ne functions_ne_classes]
      exact h.not_occurs functions_ne_classes fun g hg => anyHead_iff.2 (.inr (.inl hg))
    exact .inl ⟨h, (afterClasses_of_not_occurs hno).trans hafter⟩
  · have hafter : afterFunctions text = text := afterFunctions_of_not_occurs
      (h.not_occurs classes_ne_functions fun g hg => anyHead_iff.2 (.inl hg))
    refine .inr ⟨h, ?_⟩
    rw [afterClasses, hafter]
    exact Rule.run_of_trigger ((trigger_eq_occurs (K := classes) text).trans hwords)

/-- In an orderly text the name that is found ends up exported. -/
theorem declaresExport_of_orderly {text : Text}
    (hwords : Text.occurs "export default".toList text = true) (h : Orderly text) :
    ∀ name ∈ defaultExportName? text, DeclaresExport name (migration.migrate text).after := by
  intro name hname
  unfold Orderly at h
  split at h
  · next hmatch =>
    obtain ⟨halone, hmoves⟩ := h
    obtain ⟨m, hm⟩ := Option.isSome_iff_exists.1 hmatch
    obtain rfl : m.group exportGroup = name := by
      rw [defaultExportName?, hm] at hname
      exact Option.some.inj hname
    rw [after_migrate_of_not_moved hmoves]
    rcases afterClasses_of_alone hwords halone with ⟨halone, hafter⟩ | ⟨halone, hafter⟩
    · rw [hafter]
      exact declaresExport_replaceAll (fun g hg => anyHead_iff.2 (.inl hg)) (fun _ => .inl) halone hm
    · rw [hafter]
      refine declaresExport_replaceAll (fun g hg => anyHead_iff.2 (.inr (.inl hg))) ?_ halone hm
      rintro _ ⟨s, rfl, hs⟩
      exact .inr ⟨_, s, rfl, hs, by simp⟩
  · next hmatch =>
    have hno := (not_congr ((isMatch_iff isPlain_defaultDeclaration text).trans
      occurs_defaultDeclaration_iff)).1 hmatch
    have hfunctions : afterFunctions text = text :=
      afterFunctions_of_not_occurs fun hocc => hno (.inl hocc)
    have hclasses : afterClasses text = text := by
      rw [afterClasses_of_not_occurs fun hocc => hno (.inr (.inl (hfunctions ▸ hocc))), hfunctions]
    have hafter : (migration.migrate text).after = moveTrailing text := by
      rw [after_migrate, hclasses]
      exact Rule.run_of_trigger hwords
    have hnone : defaultDeclaration.find? text = none := by
      simpa [isMatch] using hmatch
    have hline : name ∈ (trailingDefault.matchesIn text).map fun m => m.group exportGroup := by
      rw [defaultExportName?, hnone] at hname
      exact List.mem_of_find?_eq_some hname
    obtain ⟨m, hm, rfl⟩ := List.mem_map.1 hline
    rw [hafter]
    exact declaresExport_moveTrailing hm (h _ hname)

/-- The two halves of `ScanAgrees`. That a name is found just if the migration changes the text is
so exactly where nothing is found, or the text has the words `export default` and something that
a rule converts. That the name that is found ends up exported is so in an orderly text with the
words. -/
theorem scanAgrees_iff (text : Text) :
    ((defaultExportName? text).isSome = (migration.migrate text).changed ↔
      defaultExportName? text = none ∨
        Text.occurs "export default".toList text = true ∧ Convertible text) ∧
    (Text.occurs "export default".toList text = true → Orderly text →
      ∀ name ∈ defaultExportName? text, DeclaresExport name (migration.migrate text).after) := by
  have hchanged := changed_iff text
  have hfound := isSome_defaultExportName?_iff text
  refine ⟨?_, declaresExport_of_orderly⟩
  constructor
  · intro hsame
    cases hname : defaultExportName? text with
    | none => exact .inl rfl
    | some name =>
        rw [hname, Option.isSome_some] at hsame
        exact .inr (hchanged.1 hsame.symm)
  · intro hcases
    rcases hcases with hname | ⟨hwords, hconvertible⟩
    · rw [hname, Option.isSome_none]
      refine (Bool.eq_false_iff.2 fun h => ?_).symm
      have hsome := hfound.2 (.inl (hchanged.1 h).2)
      simp [hname] at hsome
    · rw [hfound.2 (.inl hconvertible), hchanged.2 ⟨hwords, hconvertible⟩]

/-- A line that exports a class as the default, behind that class. -/
theorem declaresExport_class_line :
    let text := "class A \x7b\x7d\nexport default A\n".toList
    Orderly text ∧ defaultExportName? text = some "A".toList ∧
      DeclaresExport "A".toList (migration.migrate text).after := by
  intro text
  have hname : defaultExportName? text = some "A".toList := by decide +kernel
  have huntouched : Untouched text "A".toList := by
    refine ⟨[], "class ".toList, " \x7b\x7d\nexport default A\n".toList, rfl, by decide +kernel,
      .inr ⟨"class".toList, [' '], rfl, spaces1_blank, List.mem_cons_self⟩, by decide, ?_⟩
    decide +kernel
  have horderly : Orderly text := by
    rw [Orderly, if_neg (by decide +kernel), hname]
    intro name h
    exact Option.some.inj h ▸ huntouched
  exact ⟨horderly, hname, (scanAgrees_iff text).2 (by decide) horderly _ hname⟩

/-- With two spaces between the words the scan finds a name, and no rule fires. -/
theorem not_scanAgrees_two_spaces :
    ¬ ScanAgrees "export  default function f() \x7b\x7d\n".toList := by
  decide +kernel

end CodeMigration.NamedExports
