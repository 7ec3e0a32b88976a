import CodeMigration.Migration.Catalog
import CodeMigration.Proofs.ExportPasses
import CodeMigration.Proofs.ImportLists
import CodeMigration.Proofs.NestedLinks
import CodeMigration.Proofs.Weight
import CodeMigration.Proofs.WrappedClients
import Mathlib.Order.OrderDual

/-!
# CodeMigration.Proofs.ChangedTexts

A built-in migration that says it has changed a text has changed it: its rules do not undo what
others of them have done. Each migration has a measure that tells.

* Wrapping calls and adding an import make a text heavier (`Text.weight`). Redirecting a
  reference puts one name in the place of another, which makes no difference to the weight,
  although it can make the text shorter than it was before the import.
* Nested links are heavier than single ones.
* Named exports are shorter than default ones, and so is a text from which a line was moved.
-/

namespace CodeMigration

open Lexeme Pattern Text

/-! ### Imports -/

namespace ImportRule

/-- What stands behind an import line is not lost, and the line has a quote at least. -/
theorem weight_importLine_append (rule : ImportRule) (semicolon inWord : Bool) (v : Text) :
    weight false v < weight inWord (rule.importLine semicolon ++ v) := by
  obtain ⟨front, rest, hline, hrest⟩ : ∃ front rest,
      rule.importLine semicolon = front ++ '\'' :: rest ∧ (rest = [] ∨ rest = [';']) := by
    cases semicolon with
    | false => exact ⟨_, [], rfl, .inl rfl⟩
    | true => exact ⟨_, [';'], rfl, .inr rfl⟩
  have hquote : weight inWord (rule.importLine semicolon ++ v) =
      weight inWord front + (1 + weight false (rest ++ v)) := by
    rw [hline, List.append_assoc, weight_append, List.cons_append, weight_mark _ (by decide)]
  have hbehind : weight false v ≤ weight false (rest ++ v) := by
    rcases hrest with rfl | rfl
    · exact Nat.le_refl _
    · rw [List.singleton_append, weight_mark _ (by decide)]
      exact Nat.le_add_left _ 1
  omega

/-- A comma at the end of a list and the space behind it weigh one at most. -/
theorem weight_close_append_le (body : Text) (inWord : Bool) (v : Text) :
    weight inWord (listComma body ++ (trailingSpace body ++ v)) ≤ 1 + weight false v := by
  rw [← weight_spaces (spaces_trailingSpace body) v]
  unfold listComma
  split
  · rw [List.singleton_append, weight_mark _ (by decide)]
  · exact Nat.le_trans (weight_le_weight_false inWord _) (Nat.le_add_left _ 1)

/-- A name and the comma before it outweigh a word that is cut off from the one before it. -/
theorem lighter_comma_name {name gap : Text} (hname : Identifier name) (hgap : Spaces gap)
    (u : Text) : Lighter u (',' :: (gap ++ (name ++ u))) := by
  intro inWord
  have hnew : weight inWord (',' :: (gap ++ (name ++ u))) = 1 + (2 + weight true u) := by
    rw [weight_mark _ (by decide), weight_spaces hgap, weight_identifier _ hname]
    rfl
  have hless := weight_le_weight_false inWord u
  have hmost := weight_false_le_add_two true u
  omega

/-- A list with one name more is heavier. -/
theorem lighter_extendList {name : Text} (hname : Identifier name) (body v : Text) :
    Lighter (body ++ v) (extendList name body ++ v) := by
  have hbody : body ++ v = listHead body ++ (listComma body ++ (trailingSpace body ++ v)) := by
    rw [← List.append_assoc, ← List.append_assoc, listHead_append]
  by_cases hblank : isBlank (listHead body) = true
  · -- There is no name in the list, but a comma may be lost.
    intro inWord
    have hhead : Spaces (listHead body) := List.all_eq_true.1 hblank
    have hold : weight inWord (body ++ v) ≤ 1 + weight false v := by
      calc weight inWord (body ++ v)
          ≤ weight false (body ++ v) := weight_le_weight_false inWord _
        _ = weight false (listComma body ++ (trailingSpace body ++ v)) := by
            rw [hbody, weight_spaces hhead]
        _ ≤ 1 + weight false v := weight_close_append_le body false v
    have hnew : weight inWord (' ' :: name ++ [' '] ++ v) = 2 + weight false v := by
      rw [List.append_assoc, List.cons_append, weight_space _ (by decide),
        weight_identifier _ hname, List.singleton_append, weight_space _ (by decide)]
      rfl
    rw [extendList_eq, if_pos hblank]
    omega
  · obtain ⟨gap, hgap, hlist⟩ := exists_extendList name (Bool.eq_false_iff.2 hblank)
    have hmore := carried_lighter.append (listHead body)
      (lighter_comma_name hname hgap (listComma body ++ (trailingSpace body ++ v)))
    rw [hbody, hlist]
    simpa using hmore

/-! #### Each way of adding an import makes the text heavier -/

theorem lighter_extendExisting {rule : ImportRule} (hname : Identifier rule.name) {text : Text}
    (h : (rule.extendable? text).isSome = true) : Lighter text (rule.extendExisting text) := by
  obtain ⟨⟨s, e⟩, hspan⟩ := Option.isSome_iff_exists.1 h
  obtain ⟨u, body, v, rfl, rfl, rfl⟩ := extendable?_eq_some hspan
  rw [extendExisting, hspan]
  simp only [Cursor.before_between, Cursor.after_between, Cursor.textUntil_between,
    List.append_assoc]
  exact carried_lighter.append _ (lighter_extendList hname body v)

theorem lighter_insertAfterAnchor {rule : ImportRule} {text : Text}
    (h : (rule.anchor? text).isSome = true) : Lighter text (rule.insertAfterAnchor text) := by
  obtain ⟨m, hm⟩ := Option.isSome_iff_exists.1 h
  obtain ⟨front, rest, -, rfl, hinsert⟩ := insertAfterAnchor_eq hm
  rw [hinsert]
  refine carried_lighter.append front fun inWord => ?_
  rw [weight_space _ (by decide)]
  exact Nat.lt_of_le_of_lt (weight_le_weight_false inWord rest)
    (rule.weight_importLine_append _ false rest)

theorem lighter_insertNearUsage {rule : ImportRule} {text : Text}
    (h : rule.usageAnchor.isMatch text = true) : Lighter text (rule.insertNearUsage text) := by
  obtain ⟨above, rest, semicolon, -, rfl, hinsert⟩ := insertNearUsage_eq h
  rw [hinsert]
  refine carried_lighter.append above fun inWord => ?_
  refine Nat.lt_of_le_of_lt (weight_le_weight_false inWord rest) ?_
  have hmore := rule.weight_importLine_append semicolon inWord ('\n' :: rest)
  rwa [weight_space _ (by decide)] at hmore

/-- A rule that adds an import makes the text heavier. -/
theorem raises_weight {rule : ImportRule} (hname : Identifier rule.name) :
    rule.toRule.Raises (weight false) := by
  intro text hfires
  have hne : rule.apply text ≠ text := (Rule.fires_iff.1 hfires).2
  show weight false text < weight false (rule.apply text)
  unfold apply strategy at hne ⊢
  split_ifs at hne ⊢ with hsatisfied husage hextend hanchor hnear
  · exact absurd rfl hne
  · exact absurd rfl hne
  · exact lighter_extendExisting hname hextend false
  · exact lighter_insertAfterAnchor hanchor false
  · exact lighter_insertNearUsage hnear false
  · exact absurd rfl hne

end ImportRule

/-! ### Clients -/

namespace ReferenceRule

variable {rule : ReferenceRule} (hn : rule.WellNamed)

include hn

/-- All references to the member have the same weight. -/
theorem weight_of_isReference {x w : Text} (h : rule.IsReference x w) (inWord : Bool) (r : Text) :
    weight inWord (w ++ r) = (if inWord then 0 else 2) + 4 + weight false r := by
  obtain ⟨hx, s, t, u, rfl, hs, ht, hu⟩ := h
  have hshape : x ++ s ++ '.' :: (t ++ rule.accessor ++ u ++ ['.']) ++ r =
      x ++ (s ++ '.' :: (t ++ (rule.accessor ++ (u ++ '.' :: r)))) := by simp
  rw [hshape, weight_identifier _ hx, weight_spaces_mark _ hs (by decide), weight_spaces ht,
    weight_identifier _ hn.accessor, weight_spaces_mark _ hu (by decide)]
  simp only [Bool.false_eq_true, if_false]
  omega

/-- Redirecting references does not change the weight of the text. -/
theorem weight_run (text : Text) : weight false (rule.toRule.run text) = weight false text := by
  unfold Rule.run
  split
  · show weight false (rule.apply text) = _
    unfold apply
    split
    · rfl
    · have hreplace : ∀ b w r k, rule.reference.Takes b w r k →
          rule.redirect (rule.wrapped text) (.taken b w r k) = w ∨
            ∀ t, Balanced (w ++ t) (rule.redirect (rule.wrapped text) (.taken b w r k) ++ t) := by
        intro b w r k htakes
        rcases redirect_cases rule (rule.wrapped text) (.taken b w r k) with hnew | hold
        · refine .inr fun t inWord => ?_
          rw [hnew, weight_of_isReference hn (takes_reference htakes),
            weight_of_isReference hn (isReference_redirected hn)]
        · exact .inl (hold.trans (Match.text_taken b w r k))
      rcases spliceFrom_cases carried_balanced hreplace
          (scans_matchesIn rule.isPlain_reference rule.isSolid_reference text) with heq | hbalanced
      · rw [replaceAll_eq, heq]
      · exact (hbalanced false).symm
  · rfl

end ReferenceRule

namespace TypedClient

/-- Only the indentation and the keyword of a header go with what stands before it. -/
theorem Header.weight_append (d : Header) (inWord : Bool) (r : Text) :
    weight inWord (d.text ++ r) = weight inWord (d.indent ++ d.keyword) + 3 + weight false r := by
  have hshape : d.text ++ r =
      d.indent ++ d.keyword ++ (d.gap ++ (d.name ++ (d.nameGap ++ '=' :: r))) := by
    simp [Header.text]
  rw [hshape, Text.weight_append, weight_spaces1 _ d.spaces1_gap,
    weight_identifier _ d.identifier_name, weight_spaces_mark _ d.spaces_nameGap (by decide)]
  simp only [Bool.false_eq_true, if_false]
  omega

/-- The weight of a call does not depend on the space before it. -/
theorem Call.weight_append {callee : Text} (c : Call callee) (r : Text) :
    weight false (c.text ++ r) =
      weight false (c.await ++ (callee ++ '(' :: c.arguments)) + 1 + weight false r := by
  have hshape : c.text ++ r =
      c.gap ++ (c.await ++ (callee ++ '(' :: c.arguments) ++ ')' :: r) := by
    simp [Call.text]
  rw [hshape, weight_spaces c.spaces_gap, Text.weight_append, weight_mark _ (by decide)]
  omega

variable {settings : TypedClientSettings} (hn : WellNamed settings)

include hn

/-- Two declarations are heavier than one. -/
theorem raises_callSite : (callSite settings).toRule.Raises (weight false) := by
  intro text hfires
  have hreplace : ∀ b w r k, (declaration settings.factory.toList).Takes b w r k →
      wrapCall settings (.taken b w r k) = w ∨
        ∀ t, Lighter (w ++ t) (wrapCall settings (.taken b w r k) ++ t) := by
    intro b w r k htakes
    obtain ⟨d, c, e, rfl, he, -, hkept, hwrapped⟩ := exists_of_takes hn htakes
    by_cases hname : d.name = settings.intermediate.toList
    · exact .inl (hkept hname)
    · refine .inr fun t inWord => ?_
      have hspaced : weight false (c.spaced.await ++ (settings.factory.toList ++
          '(' :: c.spaced.arguments)) =
          weight false (c.await ++ (settings.factory.toList ++ '(' :: c.arguments)) := rfl
      have hrenamed : ∀ {name : Text} (hname : Identifier name),
          weight inWord ((d.rename hname).indent ++ (d.rename hname).keyword) =
            weight inWord (d.indent ++ d.keyword) := fun _ => rfl
      -- Behind the semicolon there is a line more.
      have hbehind : ∀ u, weight false u + 4 ≤ weight false ('\n' ::
          ((d.rename d.identifier_name).text ++
            ((Call.ofName settings.wrapper.toList hn.intermediate).text ++ u))) := by
        intro u
        rw [weight_space _ (by decide), Header.weight_append, Call.weight_append]
        omega
      rw [hwrapped hname]
      simp only [List.append_assoc, List.cons_append]
      rw [Header.weight_append, Header.weight_append, Call.weight_append, Call.weight_append,
        hspaced, hrenamed]
      have hmore := hbehind (e ++ t)
      rcases he with rfl | rfl
      · simp only [List.nil_append] at hmore ⊢
        omega
      · simp only [List.cons_append, List.nil_append] at hmore ⊢
        rw [weight_mark false (by decide) t] at hmore ⊢
        rw [weight_mark false (by decide) ('\n' :: _)]
        omega
  exact Substitution.apply_of_fires (s := callSite settings)
    (isPlain_declaration _) (isSolid_declaration _) carried_lighter hreplace hfires false

/-- The migration of clients changes every text on which one of its rules fires. -/
theorem changed_iff_after_ne (text : Text) : ((migration settings).migrate text).changed = true ↔
    ((migration settings).migrate text).after ≠ text := by
  refine Migration.changed_iff_of_raises (weight false)
    [(callSite settings).toRule, (importRule settings).toRule] rfl ?_ ?_ text
  · simp only [List.forall_mem_cons, List.not_mem_nil, false_implies, implies_true, and_true]
    exact ⟨raises_callSite hn, ImportRule.raises_weight hn.wrapper⟩
  · intro text
    exact (ReferenceRule.weight_run hn.references text).ge

end TypedClient

/-! ### Links -/

namespace PrefetchLink

section Weights

variable {names : PrefetchLinkSettings}

/-- An opening has two names and two marks, whatever stands around it. -/
theorem Opening.weight_append {o : Text} (ho : Opening names o) (inWord : Bool) (r : Text) :
    weight inWord (o ++ r) = weight false names.outer.toList +
      weight false names.linkAttribute.toList + 2 + weight false r := by
  obtain ⟨s, t, u, rfl, hs, ht, hu⟩ := ho
  have hshape : '<' :: names.outer.toList ++ s ++ names.linkAttribute.toList ++ t ++ '=' :: u ++ r =
      '<' :: (names.outer.toList ++ (s ++ (names.linkAttribute.toList ++
        (t ++ '=' :: (u ++ r))))) := by
    simp
  rw [hshape, weight_mark _ (by decide), Text.weight_append, weight_spaces1 _ hs,
    Text.weight_append, weight_spaces_mark _ ht (by decide), weight_spaces hu]
  omega

theorem Closing.weight_append {c : Text} (hc : Closing names c) (inWord : Bool) (r : Text) :
    weight inWord (c ++ r) = weight false names.outer.toList + 3 + weight false r := by
  obtain ⟨s, rfl, hs⟩ := hc
  have hshape : '<' :: '/' :: names.outer.toList ++ s ++ ['>'] ++ r =
      '<' :: '/' :: (names.outer.toList ++ (s ++ '>' :: r)) := by
    simp
  rw [hshape, weight_mark _ (by decide), weight_mark _ (by decide), Text.weight_append,
    weight_spaces_mark _ hs (by decide)]
  omega

theorem weight_nestedOpening_append (inWord : Bool) (r : Text) :
    weight inWord (nestedOpening names ++ r) =
      weight false names.outer.toList + weight false names.outerFlag.toList +
        weight false names.inner.toList + weight false names.linkAttribute.toList + 4 +
          weight false r := by
  have hshape : nestedOpening names ++ r = '<' :: (names.outer.toList ++ ' ' ::
      (names.outerFlag.toList ++ '>' :: '<' :: (names.inner.toList ++ ' ' ::
        (names.linkAttribute.toList ++ '=' :: r)))) := by
    simp [nestedOpening]
  rw [hshape, weight_mark _ (by decide), Text.weight_append, weight_space _ (by decide),
    Text.weight_append, weight_mark _ (by decide), weight_mark _ (by decide), Text.weight_append,
    weight_space _ (by decide), Text.weight_append, weight_mark _ (by decide)]
  omega

theorem weight_nestedClosing_append (inWord : Bool) (r : Text) :
    weight inWord (nestedClosing names ++ r) =
      weight false names.inner.toList + weight false names.outer.toList + 6 + weight false r := by
  have hshape : nestedClosing names ++ r = '<' :: '/' :: (names.inner.toList ++
      '>' :: '<' :: '/' :: (names.outer.toList ++ '>' :: r)) := by
    simp [nestedClosing]
  rw [hshape, weight_mark _ (by decide), weight_mark _ (by decide), Text.weight_append,
    weight_mark _ (by decide), weight_mark _ (by decide), weight_mark _ (by decide),
    Text.weight_append, weight_mark _ (by decide)]
  omega

/-- Nested links are heavier than the link in whose place they stand. -/
theorem Form.raises_rule (F : Form) (id : String) :
    (F.rule names id).toRule.Raises (weight false) := by
  intro text hfires
  have hreplace : ∀ b w r k, (F.pattern names).Takes b w r k →
      wrapLink names (.taken b w r k) = w ∨
        ∀ t, Lighter (w ++ t) (wrapLink names (.taken b w r k) ++ t) := by
    intro b w r k htakes
    obtain ⟨o, v, s, t, c, rfl, ho, -, hs, hc, hnested⟩ := wrapLink_of_takes htakes
    refine .inr fun z inWord => ?_
    -- Value and text are in both, and each of them stands before a mark.
    have hold : o ++ (v ++ s ++ '>' :: t) ++ c ++ z =
        o ++ (v ++ (s ++ '>' :: (t ++ (c ++ z)))) := by
      simp
    have hnew : nestedOpening names ++ v ++ '>' :: t ++ nestedClosing names ++ z =
        nestedOpening names ++ (v ++ '>' :: (t ++ (nestedClosing names ++ z))) := by
      simp
    rw [hnested, hold, hnew, ho.weight_append, Text.weight_append false v,
      weight_spaces_mark _ hs (by decide), Text.weight_append false t, hc.weight_append,
      weight_nestedOpening_append, Text.weight_append false v, weight_mark _ (by decide),
      Text.weight_append false t, weight_nestedClosing_append]
    omega
  exact Substitution.apply_of_fires (s := F.rule names id) F.isPlain_pattern F.isSolid_pattern
    carried_lighter hreplace hfires false

end Weights

/-- The migration of links changes every text on which one of its rules fires. -/
theorem changed_iff_after_ne {names : PrefetchLinkSettings} (hname : Identifier names.inner.toList)
    (text : Text) : ((migration names).migrate text).changed = true ↔
      ((migration names).migrate text).after ≠ text := by
  refine Migration.changed_iff_of_raises (weight false)
    [(importRule names).toRule, (expressionRule names).toRule] rfl ?_ ?_ text
  · simp only [List.forall_mem_cons, List.not_mem_nil, false_implies, implies_true, and_true]
    exact ⟨ImportRule.raises_weight hname, Form.raises_rule braced _⟩
  · exact (Form.raises_rule quoted _).le_run

end PrefetchLink

/-! ### Exports -/

namespace NamedExports

/-- Shorter texts are greater. -/
def shortness (text : Text) : OrderDual Nat := OrderDual.toDual text.length

theorem Kind.raises_declarationRule (K : Kind) (kind : String) :
    (declarationRule kind K.declaration).toRule.Raises shortness := by
  intro text hfires
  have hreplace : ∀ b w r k, K.pattern.Takes b w r k → exportNamed (.taken b w r k) = w ∨
      ∀ t, (exportNamed (.taken b w r k) ++ t).length < (w ++ t).length := by
    intro b w r k htakes
    obtain ⟨s, t, d, rfl, -, -, -, hnamed⟩ := takes_pattern htakes
    refine .inr fun z => ?_
    rw [hnamed]
    simp only [List.length_append, String.length_toList]
    have hwords : "export ".length < "export".length + "default".length := by decide
    omega
  exact OrderDual.toDual_lt_toDual.2 (Substitution.apply_of_fires
    (s := declarationRule kind K.declaration) K.isPlain_pattern K.isSolid_pattern carried_longer
    hreplace hfires)

theorem raises_trailingRule : trailingRule.Raises shortness := by
  intro text hfires
  have hmoves := List.length_pos_iff.2 (fires_trailingRule_iff.1 hfires).2
  have hlength := length_moveTrailing text
  have hshorter : (moveTrailing text).length < text.length := by omega
  exact OrderDual.toDual_lt_toDual.2 hshorter

/-- The migration of exports changes every text on which one of its rules fires. -/
theorem changed_iff_after_ne (text : Text) : (migration.migrate text).changed = true ↔
    (migration.migrate text).after ≠ text := by
  refine Migration.changed_iff_of_raises shortness [functionRule.toRule, classRule.toRule] rfl
    ?_ ?_ text
  · simp only [List.forall_mem_cons, List.not_mem_nil, false_implies, implies_true, and_true]
    exact ⟨Kind.raises_declarationRule functions _, Kind.raises_declarationRule classes _⟩
  · exact raises_trailingRule.le_run

end NamedExports

/-! ### The built-in migrations -/

namespace Catalog

/-- Each built-in migration is there without any settings, and says that it has changed a text
just if the text is not what it was. -/
theorem changed_builtin_iff {name : String} (hname : name ∈ builtinNames) :
    ∃ migration, load name {} = .ok migration ∧ ∀ text,
      (migration.migrate text).changed = true ↔
        (migration.migrate text).after ≠ (migration.migrate text).before := by
  simp only [builtinNames, List.mem_cons, List.not_mem_nil, or_false] at hname
  rcases hname with rfl | rfl | rfl
  · exact ⟨_, rfl, TypedClient.changed_iff_after_ne TypedClient.wellNamed_default⟩
  · have hinner : Identifier ({} : PrefetchLinkSettings).inner.toList :=
      ⟨'P', "refetchLink".toList, rfl, by decide, List.all_eq_true.1 (by decide)⟩
    exact ⟨_, rfl, PrefetchLink.changed_iff_after_ne hinner⟩
  · exact ⟨_, rfl, NamedExports.changed_iff_after_ne⟩

/-- Named exports change the default export of a function. -/
theorem changed_function : NamedExports.name ∈ builtinNames ∧
    ∃ migration, load NamedExports.name {} = .ok migration ∧
      (migration.migrate "export default function f() \x7b\x7d\n".toList).after ≠
        (migration.migrate "export default function f() \x7b\x7d\n".toList).before := by
  have hbuiltin : NamedExports.name ∈ builtinNames := by decide
  obtain ⟨migration, hload, hchanged⟩ := changed_builtin_iff hbuiltin
  obtain rfl : NamedExports.migration = migration := Except.ok.inj hload
  exact ⟨hbuiltin, _, hload, (hchanged _).1 (by decide +kernel)⟩

end Catalog

end CodeMigration
