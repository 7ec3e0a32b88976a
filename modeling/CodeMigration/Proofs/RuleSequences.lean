import CodeMigration.Proofs.Passes

/-!
# CodeMigration.Proofs.RuleSequences

Lists of rules as programs. To run one list behind another is to run the two as one list
(`runRules_append`), and the rules that a run reports are some of the listed ones, in their
order. Whether a run reports any rule at all is decided on the text it starts from, rule by
rule: a rule that does nothing hands on the text that it was given, so the next rule stands
where it would stand alone.
-/

namespace CodeMigration

theorem Rule.fires_eq_false_iff {rule : Rule} {text : Text} :
    rule.fires text = false ↔ rule.trigger text = false ∨ rule.apply text = text := by
  rw [← Bool.not_eq_true, Rule.fires_iff, not_and_or, Bool.not_eq_true, not_not]

/-- One rule before others: they see what it has made of the text. -/
theorem runRules_cons (rule : Rule) (rules : List Rule) (text : Text) :
    runRules (rule :: rules) text =
      ((runRules rules (rule.run text)).1,
        (if rule.fires text then [rule.id] else []) ++ (runRules rules (rule.run text)).2) := by
  rw [runRules, Rule.run]
  split <;> rfl

theorem runRules_append (rules later : List Rule) (text : Text) :
    runRules (rules ++ later) text =
      ((runRules later (runRules rules text).1).1,
        (runRules rules text).2 ++ (runRules later (runRules rules text).1).2) := by
  induction rules generalizing text with
  | nil => rfl
  | cons rule rules ih =>
      rw [List.cons_append, runRules_cons, runRules_cons rule rules, ih]
      simp only [List.append_assoc]

/-- The rules that fire are listed, and in the order of the list. -/
theorem runRules_snd_sublist (rules : List Rule) (text : Text) :
    (runRules rules text).2.Sublist (rules.map (·.id)) := by
  induction rules generalizing text with
  | nil => exact .slnil
  | cons rule rules ih =>
      rw [runRules_cons, List.map_cons]
      cases rule.fires text with
      | true => exact (ih _).cons_cons rule.id
      | false => exact (ih _).cons rule.id

namespace Migration

/-- The migration with the rules of another behind its own. -/
def followedBy (first second : Migration) : Migration :=
  { first with rules := first.rules ++ second.rules }

theorem changed_eq_false_iff {migration : Migration} {text : Text} :
    (migration.migrate text).changed = false ↔
      ∀ rule ∈ migration.rules, rule.trigger text = false ∨ rule.apply text = text := by
  rw [← Bool.not_eq_true, changed_migrate_iff, not_exists]
  simp only [not_and, Bool.not_eq_true, Rule.fires_eq_false_iff]

/-- Two migrations in a row are one migration with the rules of both: its result is that of
the second on the result of the first, it reports what both report, and it changes the text
if either does. The rules that a migration reports are some of its rules, in their order. It
reports none just if each of its rules, taken alone, leaves the text as it is, and then so
does the migration. -/
theorem migrate_followedBy (first second : Migration) (text : Text) :
    ((first.followedBy second).migrate text =
        ⟨text, (second.migrate (first.migrate text).after).after,
          (first.migrate text).applied ++ (second.migrate (first.migrate text).after).applied⟩ ∧
      ((first.followedBy second).migrate text).changed =
        ((first.migrate text).changed || (second.migrate (first.migrate text).after).changed)) ∧
    (first.migrate text).applied.Sublist first.ruleIds ∧
    ((first.migrate text).changed = false ↔
      ∀ rule ∈ first.rules, rule.trigger text = false ∨ rule.apply text = text) ∧
    ((first.migrate text).changed = false → (first.migrate text).after = text) := by
  have hboth : (first.followedBy second).migrate text =
      ⟨text, (second.migrate (first.migrate text).after).after,
        (first.migrate text).applied ++ (second.migrate (first.migrate text).after).applied⟩ := by
    simp only [migrate, followedBy, runRules_append]
  refine ⟨⟨hboth, ?_⟩, runRules_snd_sublist _ _, changed_eq_false_iff, fun hidle => ?_⟩
  · rw [hboth]
    cases happlied : (first.migrate text).applied <;> simp [Outcome.changed, happlied]
  · refine runRules_fst_of_idle fun rule hrule => ?_
    exact Rule.fires_eq_false_iff.2 (changed_eq_false_iff.1 hidle rule hrule)

end Migration

end CodeMigration
