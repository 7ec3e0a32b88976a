import CodeMigration.Proofs.ExportPasses
import CodeMigration.Proofs.ImporterPasses
import CodeMigration.Proofs.NestedLinks
import CodeMigration.Proofs.WrappedClients

/-!
# CodeMigration.Proofs.Triggers

What the triggers of the rules pass over. A trigger looks for a word or two, and where it
misses them the rule is not tried. Nothing is lost by that as long as every match holds the
words. For calls, links and imports it does, since their patterns begin with the word or
have it where no white space can come in between. Default exports are lost where `export` and
`default` stand further apart than one space, and references to a wrapped client where white
space stands inside the call that wraps it or around the member, for the patterns take any
white space there (`losesNothingAt_iff`).
-/

namespace CodeMigration

open Pattern

/-- Where its trigger is not met, the rule has nothing to do. -/
def Rule.LosesNothingAt (rule : Rule) (text : Text) : Prop :=
  rule.trigger text = false → rule.apply text = text

instance (rule : Rule) (text : Text) : Decidable (rule.LosesNothingAt text) :=
  inferInstanceAs (Decidable (_ → _))

theorem Rule.losesNothingAt_iff_or {rule : Rule} {text : Text} :
    rule.LosesNothingAt text ↔ rule.trigger text = true ∨ rule.apply text = text := by
  rw [LosesNothingAt, ← Bool.not_eq_true, or_iff_not_imp_left]

/-- Nothing is lost if the trigger is met wherever the pattern fits. -/
theorem Substitution.losesNothingAt {s : Substitution} (hp : s.pattern.isPlain = true) {text : Text}
    (h : s.pattern.Occurs [] text → s.trigger.isMet text = true) :
    s.toRule.LosesNothingAt text := by
  rw [Rule.losesNothingAt_iff_or]
  by_cases hocc : s.pattern.Occurs [] text
  · exact .inl (h hocc)
  · exact .inr (apply_of_not_occurs hp hocc)

/-! ### References -/

namespace ReferenceRule

/-- Some reference in the text is one to a wrapped variable and not to a member. -/
def Redirects (rule : ReferenceRule) (text : Text) : Prop :=
  ∃ m ∈ rule.reference.matchesIn text,
    m.start.before.head? ≠ some '.' ∧ m.group nameGroup ∈ rule.wrapped text

theorem apply_eq_self_iff {rule : ReferenceRule} (hn : rule.WellNamed) {text : Text} :
    rule.apply text = text ↔ ¬ rule.Redirects text := by
  have hscan := scans_matchesIn (isPlain_reference rule) (isSolid_reference rule) text
  have hredirect : ∀ m, rule.redirect (rule.wrapped text) m =
      if m.start.before.head? ≠ some '.' ∧ m.group nameGroup ∈ rule.wrapped text then
        rule.redirected
      else m.text := by
    intro m
    simp [redirect, redirected]
  have hreplaces : rule.reference.Replaces (rule.redirect (rule.wrapped text)) := by
    intro b w r k h
    rw [hredirect]
    split
    · next hm =>
      refine .inr (redirected_append_ne hn h fun htarget => ?_)
      exact target_not_mem_wrapped rule text (htarget ▸ hm.2)
    · exact .inl (Match.text_taken b w r k)
  rw [apply_eq_replaceAll, replaceAll_eq, spliceFrom_eq_self_iff hreplaces hscan, Redirects, not_exists]
  refine forall_congr' fun m => ?_
  rw [not_and]
  refine imp_congr_right fun hm => ?_
  obtain ⟨b, w, r, k, rfl, htakes, -⟩ := hscan.exists_taken m hm
  rw [hredirect]
  split
  · next hwrapped =>
    refine iff_of_false (fun heq => ?_) (not_not.2 hwrapped)
    refine redirected_append_ne hn htakes (fun htarget => ?_) r ?_
    · exact target_not_mem_wrapped rule text (htarget ▸ hwrapped.2)
    · rw [heq, Match.text_taken]
  · next hkept => exact iff_of_true rfl hkept

end ReferenceRule

/-! ### Default exports -/

namespace NamedExports

theorem Kind.losesNothingAt_declarationRule_iff {K : Kind} {kind : String} {text : Text} :
    (declarationRule kind K.declaration).toRule.LosesNothingAt text ↔
      Text.occurs "export default".toList text = true ∨ ¬ K.pattern.Occurs [] text := by
  rw [Rule.losesNothingAt_iff_or, trigger_eq_occurs]
  exact or_congr_right (Substitution.apply_eq_self_iff_not_occurs K.isPlain_pattern
    K.isSolid_pattern fun b w r k h => exportNamed_append_ne h)

theorem losesNothingAt_iff_convertible {text : Text} :
    (∀ rule ∈ migration.rules, rule.LosesNothingAt text) ↔
      Text.occurs "export default".toList text = true ∨ ¬ Convertible text := by
  have hfunction : functionRule.toRule.LosesNothingAt text ↔ _ :=
    Kind.losesNothingAt_declarationRule_iff (K := functions)
  have hclass : classRule.toRule.LosesNothingAt text ↔ _ :=
    Kind.losesNothingAt_declarationRule_iff (K := classes)
  have htrailing : trailingRule.LosesNothingAt text ↔
      Text.occurs "export default".toList text = true ∨ trailingEdits text = [] :=
    Rule.losesNothingAt_iff_or.trans (or_congr_right moveTrailing_eq_self_iff)
  simp only [migration, List.forall_mem_cons, List.not_mem_nil, false_implies, implies_true,
    and_true, hfunction, hclass, htrailing, Convertible, not_or, not_not]
  rw [← or_and_left, ← or_and_left]

end NamedExports

theorem PrefetchLink.Form.losesNothingAt {names : PrefetchLinkSettings} (F : Form) (id : String)
    (text : Text) : (F.rule names id).toRule.LosesNothingAt text :=
  Substitution.losesNothingAt (s := F.rule names id) F.isPlain_pattern isMet_of_occurs

/-! ### All rules -/

/-- The rules whose trigger is met wherever there is something to do. -/
def soundlyTriggered (modules : List NamedExports.ConvertedModule) : List Rule :=
  [(TypedClient.callSite {}).toRule, (PrefetchLink.expressionRule {}).toRule,
    (PrefetchLink.stringRule {}).toRule, (NamedExports.importersRule modules).toRule]

/-- What the triggers pass over, rule by rule. The rules for calls, for links and for imports
of modules that go by the alias lose nothing. The rules for default exports lose what they
could convert in texts without the words `export default`, a single space between them, and the
rule for references loses what it could redirect in texts that lack the call or the member in
the spelling without white space. -/
theorem losesNothingAt_iff (modules : List NamedExports.ConvertedModule)
    (haliased : ∀ m ∈ modules, NamedExports.importAlias.toList <+: m.specifier.toList)
    (text : Text) :
    (∀ rule ∈ soundlyTriggered modules, rule.LosesNothingAt text) ∧
    ((∀ rule ∈ NamedExports.migration.rules, rule.LosesNothingAt text) ↔
      Text.occurs "export default".toList text = true ∨ ¬ NamedExports.Convertible text) ∧
    ((TypedClient.referenceRule {}).toRule.LosesNothingAt text ↔
      (Text.occurs "typed(client)".toList text = true ∧ Text.occurs ".auth.".toList text = true) ∨
        ¬ (TypedClient.referenceRule {}).Redirects text) := by
  refine ⟨?_, NamedExports.losesNothingAt_iff_convertible, ?_⟩
  · simp only [soundlyTriggered, List.forall_mem_cons, List.not_mem_nil, false_implies,
      implies_true, and_true]
    exact ⟨
      Substitution.losesNothingAt (TypedClient.isPlain_declaration _) TypedClient.isMet_callSite,
      PrefetchLink.braced.losesNothingAt _ text, PrefetchLink.quoted.losesNothingAt _ text,
      Substitution.losesNothingAt (s := NamedExports.importersRule modules)
        (NamedExports.isPlain_defaultImport _) (NamedExports.isMet_importersRule haliased)⟩
  · rw [Rule.losesNothingAt_iff_or]
    refine or_congr ?_ (ReferenceRule.apply_eq_self_iff TypedClient.wellNamed_default.references)
    simp [ReferenceRule.toRule, TypedClient.referenceRule, TypedClient.wrappedCall, Trigger.isMet]

/-- A call to wrap, a default import to rename and a default export to convert, all in the
spelling that the triggers know. -/
theorem losesNothingAt_usual_spelling :
    let modules : List NamedExports.ConvertedModule := [⟨"@/a", "A"⟩]
    let text := "import A from '@/a';\nconst x = createClient();\nexport default class B \x7b\x7d\n"
    ∀ rule ∈ soundlyTriggered modules ++ NamedExports.migration.rules,
      rule.LosesNothingAt text.toList := by
  intro modules text
  obtain ⟨hsound, hexports, -⟩ := losesNothingAt_iff modules (by decide +kernel) text.toList
  exact List.forall_mem_append.2 ⟨hsound, hexports.2 (.inl (by decide +kernel))⟩

/-- Two spaces between the words of a default export, and white space inside the call that
wraps the client. -/
theorem not_losesNothingAt_white_space :
    ¬ NamedExports.functionRule.toRule.LosesNothingAt
        "export  default function f() \x7b\x7d\n".toList ∧
      ¬ (TypedClient.referenceRule {}).toRule.LosesNothingAt
        "const x = typed( client )\nx.auth.foo()\n".toList := by
  decide +kernel

end CodeMigration
