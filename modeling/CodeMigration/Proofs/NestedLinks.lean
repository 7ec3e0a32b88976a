import CodeMigration.Proofs.Imports
import CodeMigration.Proofs.Links

/-!
# CodeMigration.Proofs.NestedLinks

What a second pass of the migration of links finds in the result of a first. The text of
a link ends at the first closing tag, so a link inside another is taken as part of its
text and stays as it is, and so does a link in the value of another. These are the only
links that are left, and they are left by the rule for their own form
(`idempotentAt_iff_no_nested_link`): the rule for one form does not touch the links of
the other, and neither rule makes a link. The import has to be there as well, which it
need not be even right after it was added, if an unfinished import before it takes it in.
-/

namespace CodeMigration.PrefetchLink

open Pattern

section

variable (names : PrefetchLinkSettings)

/-- The text with the import of the inner component. -/
def withImport (text : Text) : Text := (importRule names).toRule.run text

/-- The text after the import and the rule for links given by an expression. -/
def afterExpressions (text : Text) : Text :=
  (expressionRule names).toRule.run (withImport names text)

theorem after_migrate (text : Text) :
    ((migration names).migrate text).after =
      (stringRule names).toRule.run (afterExpressions names text) := by
  show (runRules [(importRule names).toRule, (expressionRule names).toRule,
    (stringRule names).toRule] text).1 = _
  rw [runRules_cons_fst, runRules_cons_fst, runRules_cons_fst]
  rfl

/-- A link with a value of the form begins inside a match of another. -/
def Form.HidesIn (F : Form) (text : Text) : Prop :=
  ∃ m ∈ (F.pattern names).matchesIn text, (F.pattern names).Hides m

end

section

variable {names : PrefetchLinkSettings}

/-- A text with a link meets the trigger of the rules. -/
theorem isMet_of_occurs {F : Form} {text : Text} (h : (F.pattern names).Occurs [] text) :
    (trigger names).isMet text = true := by
  obtain ⟨v, r, rfl, hfits⟩ := h
  obtain ⟨_, w, s, r, rfl, ⟨s', t, u, rfl, -, -, -⟩, -⟩ := fits_element_iff.1 hfits
  rw [trigger, Trigger.isMet_requiring, Text.occurs_iff]
  exact ⟨v, s' ++ names.linkAttribute.toList ++ t ++ '=' :: u ++ w ++ s ++ '>' :: r, by simp⟩

theorem wrapLink_append_ne (hn : WellNamed names) {F : Form} {b w r : Text} {k : Captures}
    (h : (F.pattern names).Takes b w r k) (z : Text) :
    wrapLink names (.taken b w r k) ++ z ≠ w ++ r := by
  intro heq
  obtain ⟨o, v, s, t, c, -, -, -, -, -, hnested⟩ := wrapLink_of_takes h
  have hlink := fits_element_iff.1 h.fits
  rw [← heq, hnested] at hlink
  exact not_beginsLink_nestedOpening hn _ (by simpa using hlink)

/-- The rule for the links of a form. -/
def Form.rule (names : PrefetchLinkSettings) (F : Form) (id : String) : Substitution :=
  ⟨id, trigger names, F.pattern names, wrapLink names⟩

/-- The rule for a form fires where a link of the form is found. -/
theorem Form.fires_rule_iff (hn : WellNamed names) {F : Form} {id : String} {text : Text} :
    (F.rule names id).toRule.fires text = true ↔ (F.pattern names).Occurs [] text := by
  rw [Substitution.fires_iff_occurs (s := F.rule names id) F.isPlain_pattern F.isSolid_pattern
    fun _ _ _ _ h => wrapLink_append_ne hn h]
  exact and_iff_right_of_imp isMet_of_occurs

theorem Form.run_rule {F : Form} {id : String} {text : Text} :
    (F.rule names id).toRule.run text = (F.pattern names).replaceAll (wrapLink names) text :=
  Substitution.run_eq_apply (s := F.rule names id) F.isPlain_pattern (fun _ => isMet_of_occurs) text

theorem afterExpressions_eq (text : Text) :
    afterExpressions names text =
      (braced.pattern names).replaceAll (wrapLink names) (withImport names text) :=
  Form.run_rule (F := braced)

theorem after_migrate_eq (text : Text) :
    ((migration names).migrate text).after =
      (quoted.pattern names).replaceAll (wrapLink names) (afterExpressions names text) :=
  (after_migrate names text).trans (Form.run_rule (F := quoted))

end

/-- A second pass changes nothing just if the first leaves no link nested in another of
its form, and the import is there or cannot be added. -/
theorem idempotentAt_iff_no_nested_link (text : Text) :
    (migration {}).IdempotentAt text ↔
      ¬ braced.HidesIn {} (withImport {} text) ∧ ¬ quoted.HidesIn {} (afterExpressions {} text) ∧
      ¬ ((trigger {}).isMet ((migration {}).migrate text).after = true ∧
        ((importRule {}).strategy ((migration {}).migrate text).after).isSome = true) := by
  have hexpression : (expressionRule {}).toRule.fires ((migration {}).migrate text).after = true ↔
      braced.HidesIn {} (withImport {} text) := by
    refine (Form.fires_rule_iff wellNamed_default (F := braced)).trans ?_
    rw [after_migrate_eq, Form.occurs_apply_iff_of_ne wellNamed_default quoted_ne_braced,
      afterExpressions_eq]
    exact Form.occurs_apply_iff_hides wellNamed_default braced _
  have hstring : (stringRule {}).toRule.fires ((migration {}).migrate text).after = true ↔
      quoted.HidesIn {} (afterExpressions {} text) := by
    refine (Form.fires_rule_iff wellNamed_default (F := quoted)).trans ?_
    rw [after_migrate_eq]
    exact Form.occurs_apply_iff_hides wellNamed_default quoted _
  have himport := (importRule {}).fires_iff_strategy ⟨'P', by decide, by decide, by decide⟩
    ((migration {}).migrate text).after
  rw [Migration.idempotentAt_iff]
  show (∀ rule ∈ [(importRule {}).toRule, (expressionRule {}).toRule, (stringRule {}).toRule],
    rule.fires ((migration {}).migrate text).after = false) ↔ _
  simp only [List.forall_mem_cons, List.not_mem_nil, false_implies, implies_true, and_true,
    ← Bool.not_eq_true, hexpression, hstring, himport]
  exact ⟨fun h => ⟨h.2.1, h.2.2, h.1⟩, fun h => ⟨h.2.2, h.1, h.2.1⟩⟩

/-- The inner link of two is left to the second pass. -/
theorem not_idempotentAt_link_in_link :
    ¬ (migration {}).IdempotentAt
      ("<BreadcrumbLink href=\"/a\"><BreadcrumbLink href=\"/b\">B</BreadcrumbLink>" ++
        "</BreadcrumbLink>").toList := by
  decide +kernel

end CodeMigration.PrefetchLink
