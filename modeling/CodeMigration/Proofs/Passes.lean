import CodeMigration.Migration
import CodeMigration.Proofs.Scanning
import Mathlib.Tactic.Common

/-!
# CodeMigration.Proofs.Passes

One pass of a migration and the next. A pass changes nothing just if no rule fires on
the text it starts from (`runRules_eq_self_iff`), for until a rule fires the text is
what it was. A second pass over the result of a first is therefore a question about the
rules and that result alone (`Migration.idempotentAt_iff`).

A substitution fires where its trigger is met and some match is not replaced by itself,
provided that a replacement is either the text it replaces or differs from the text
already within its own length (`Substitution.fires_iff`). Without that a later part of
the text could make up for what a replacement changes.
-/

namespace CodeMigration

/-! ### Rules one after another -/

theorem Rule.fires_iff {rule : Rule} {text : Text} :
    rule.fires text = true ↔ rule.trigger text = true ∧ rule.apply text ≠ text := by
  simp [Rule.fires]

theorem Rule.run_of_not_fires {rule : Rule} {text : Text} (h : rule.fires text = false) :
    rule.run text = text := by
  rw [Rule.run, h]
  rfl

theorem Rule.run_of_trigger {rule : Rule} {text : Text} (h : rule.trigger text = true) :
    rule.run text = rule.apply text := by
  unfold Rule.run
  split
  · rfl
  · next hfires =>
    by_contra hne
    exact hfires (Rule.fires_iff.2 ⟨h, fun heq => hne heq.symm⟩)

theorem Rule.run_cases (rule : Rule) (text : Text) :
    rule.run text = text ∨ rule.run text = rule.apply text := by
  unfold Rule.run
  split
  · exact .inr rfl
  · exact .inl rfl

/-- A rule whose trigger is met by its result has looked at the text. -/
theorem Rule.trigger_of_trigger_run {rule : Rule} {text : Text}
    (h : rule.trigger (rule.run text) = true) : rule.trigger text = true := by
  by_contra htext
  rw [Rule.run_of_not_fires (by simp [Rule.fires, htext])] at h
  exact htext h

theorem runRules_cons_fst (rule : Rule) (rules : List Rule) (text : Text) :
    (runRules (rule :: rules) text).1 = (runRules rules (rule.run text)).1 := by
  simp only [runRules, Rule.run]
  split <;> rfl

/-- A pass that reports no rule has left the text as it was, and conversely a text on
which no rule fires passes through all of them. -/
theorem runRules_eq_self_iff {rules : List Rule} {text : Text} :
    (runRules rules text).2 = [] ↔ ∀ rule ∈ rules, rule.fires text = false := by
  induction rules with
  | nil => simp [runRules]
  | cons rule rules ih =>
      rw [runRules]
      cases hfires : rule.fires text with
      | true => simp [hfires]
      | false => simp [hfires, ih]

theorem runRules_fst_of_idle {rules : List Rule} {text : Text}
    (h : ∀ rule ∈ rules, rule.fires text = false) : (runRules rules text).1 = text := by
  induction rules with
  | nil => rfl
  | cons rule rules ih =>
      rw [runRules_cons_fst, Rule.run_of_not_fires (h rule List.mem_cons_self)]
      exact ih fun r hr => h r (List.mem_cons_of_mem rule hr)

namespace Migration

theorem changed_migrate_iff {migration : Migration} {text : Text} :
    (migration.migrate text).changed = true ↔ ∃ rule ∈ migration.rules, rule.fires text = true := by
  have h := @runRules_eq_self_iff migration.rules text
  rw [Outcome.changed, Bool.not_eq_true', ← Bool.not_eq_true, List.isEmpty_iff]
  simp only [migrate, h, not_forall, Bool.not_eq_false, exists_prop]

/-- A second pass of the migration over what the first has made of the text changes
nothing: it reports no rule, and its result is the text it was given. -/
def IdempotentAt (migration : Migration) (text : Text) : Prop :=
  let result := (migration.migrate text).after
  (migration.migrate result).changed = false ∧ (migration.migrate result).applied = [] ∧
    (migration.migrate result).after = result

instance (migration : Migration) (text : Text) : Decidable (migration.IdempotentAt text) :=
  inferInstanceAs (Decidable (_ ∧ _ ∧ _))

/-- A second pass changes nothing just if no rule fires on the result of the first. -/
theorem idempotentAt_iff {migration : Migration} {text : Text} :
    migration.IdempotentAt text ↔
      ∀ rule ∈ migration.rules, rule.fires (migration.migrate text).after = false := by
  constructor
  · rintro ⟨-, happlied, -⟩
    exact runRules_eq_self_iff.1 happlied
  · intro h
    have happlied := runRules_eq_self_iff.2 h
    refine ⟨?_, happlied, runRules_fst_of_idle h⟩
    rw [Outcome.changed, Bool.not_eq_false', List.isEmpty_iff]
    exact happlied

end Migration

/-! ### When a substitution changes a text -/

namespace Pattern

/-- Each replacement is the text that it replaces or differs from the text within its
own length. -/
def Replaces (p : Pattern) (replace : Match → Text) : Prop :=
  ∀ b w r k, p.Takes b w r k →
    replace (.taken b w r k) = w ∨ ∀ t, replace (.taken b w r k) ++ t ≠ w ++ r

theorem spliceFrom_eq_self {p : Pattern} {replace : Match → Text} {b a : Text} {ms : List Match}
    (hscan : Scans p b a ms) (h : ∀ m ∈ ms, replace m = m.text) :
    spliceFrom replace (.between b a) ms = a := by
  induction hscan with
  | done => rfl
  | @skip b a x ms _ hs ih => rw [spliceFrom_skip fun m hm => hs.le_start m hm, ih h]
  | @found b w a k ms _ ht _ _ ih =>
      obtain ⟨hm, hms⟩ := List.forall_mem_cons.1 h
      rw [spliceFrom_found, hm, Match.text_taken, ih hms]

/-- The first part of a text stays if nothing in it is replaced by something else. -/
theorem exists_spliceFrom_append {p : Pattern} {replace : Match → Text} {b a : Text}
    {ms : List Match} (hscan : Scans p b a ms) {front rest : Text} (ha : a = front ++ rest)
    (h : ∀ m ∈ ms, replace m ≠ m.text → b.length + front.length ≤ m.start.offset) :
    ∃ rest', spliceFrom replace (.between b a) ms = front ++ rest' := by
  induction hscan generalizing front with
  | done =>
      obtain ⟨rfl, -⟩ := List.append_eq_nil_iff.1 ha.symm
      exact ⟨_, rfl⟩
  | @skip b a x ms _ hs ih =>
      cases front with
      | nil => exact ⟨_, rfl⟩
      | cons y front =>
          obtain ⟨rfl, rfl⟩ := List.cons.inj ha
          obtain ⟨rest', hrest⟩ := ih rfl fun m hm hne => by
            have := h m hm hne
            simp only [List.length_cons] at this ⊢
            omega
          exact ⟨rest', by rw [spliceFrom_skip fun m hm => hs.le_start m hm, hrest]; rfl⟩
  | @found b w a k ms _ ht _ _ ih =>
      rw [spliceFrom_found]
      by_cases hkept : replace (.taken b w a k) = (Match.taken b w a k).text
      · rw [hkept, Match.text_taken]
        rcases List.append_eq_append_iff.1 ha with ⟨t, rfl, rfl⟩ | ⟨t, rfl, rfl⟩
        · obtain ⟨rest', hrest⟩ := ih rfl fun m hm hne => by
            have := h m (List.mem_cons_of_mem _ hm) hne
            simp only [List.length_append, List.length_reverse] at this ⊢
            omega
          exact ⟨rest', by rw [hrest, List.append_assoc]⟩
        · exact ⟨_, List.append_assoc _ _ _⟩
      · have hfront := h _ List.mem_cons_self hkept
        simp only [Match.start_taken, Cursor.offset_between] at hfront
        obtain rfl := List.length_eq_zero_iff.1 (show front.length = 0 by omega)
        exact ⟨_, rfl⟩

theorem spliceFrom_eq_self_iff {p : Pattern} {replace : Match → Text}
    (hreplace : p.Replaces replace) {b a : Text} {ms : List Match} (hscan : Scans p b a ms) :
    spliceFrom replace (.between b a) ms = a ↔ ∀ m ∈ ms, replace m = m.text := by
  refine ⟨fun h => ?_, spliceFrom_eq_self hscan⟩
  induction hscan with
  | done => simp
  | @skip b a x ms _ hs ih =>
      rw [spliceFrom_skip fun m hm => hs.le_start m hm] at h
      exact ih (List.cons.inj h).2
  | @found b w a k ms _ ht _ _ ih =>
      rw [spliceFrom_found] at h
      rcases hreplace b w a k ht with heq | hne
      · rw [heq] at h
        refine List.forall_mem_cons.2 ⟨?_, ih (List.append_cancel_left h)⟩
        rw [heq, Match.text_taken]
      · exact absurd h (hne _)

end Pattern

namespace Substitution

open Pattern

theorem apply_eq_self_iff {s : Substitution} (hp : s.pattern.isPlain = true)
    (hs : s.pattern.isSolid = true) (hreplace : s.pattern.Replaces s.replace) {text : Text} :
    s.apply text = text ↔ ∀ m ∈ s.pattern.matchesIn text, s.replace m = m.text := by
  rw [apply, replaceAll_eq]
  exact spliceFrom_eq_self_iff hreplace (scans_matchesIn hp hs text)

/-- A substitution fires where its trigger is met and a match is not replaced by itself. -/
theorem fires_iff {s : Substitution} (hp : s.pattern.isPlain = true)
    (hs : s.pattern.isSolid = true) (hreplace : s.pattern.Replaces s.replace) {text : Text} :
    s.toRule.fires text = true ↔ s.trigger.isMet text = true ∧
      ∃ m ∈ s.pattern.matchesIn text, s.replace m ≠ m.text := by
  rw [Rule.fires_iff]
  simp only [toRule, ne_eq, apply_eq_self_iff hp hs hreplace, not_forall, exists_prop]

theorem apply_of_not_occurs {s : Substitution} (hp : s.pattern.isPlain = true) {text : Text}
    (h : ¬ s.pattern.Occurs [] text) : s.apply text = text := by
  have hnil : s.pattern.matchesIn text = [] := by
    by_contra hne
    exact h ((isMatch_iff hp text).1 (matchesIn_ne_nil_iff.1 hne))
  rw [apply, replaceAll_eq, hnil]
  rfl

/-- If no replacement goes with the text that it replaces, the substitution changes every
text in which its pattern fits. -/
theorem apply_eq_self_iff_not_occurs {s : Substitution} (hp : s.pattern.isPlain = true)
    (hs : s.pattern.isSolid = true)
    (hne : ∀ b w r k, s.pattern.Takes b w r k → ∀ t, s.replace (.taken b w r k) ++ t ≠ w ++ r)
    {text : Text} : s.apply text = text ↔ ¬ s.pattern.Occurs [] text := by
  refine ⟨fun h hocc => ?_, apply_of_not_occurs hp⟩
  rw [apply_eq_self_iff hp hs fun b w r k h => .inr (hne b w r k h)] at h
  obtain ⟨m, ms, hms⟩ :=
    List.exists_cons_of_ne_nil (matchesIn_ne_nil_iff.2 ((isMatch_iff hp text).2 hocc))
  have hm : m ∈ s.pattern.matchesIn text := by simp [hms]
  obtain ⟨b, w, r, k, rfl, htakes, -⟩ := (scans_matchesIn hp hs text).exists_taken m hm
  refine hne b w r k htakes r ?_
  rw [h _ hm, Match.text_taken]

/-- Such a substitution fires where its trigger is met and its pattern fits somewhere. -/
theorem fires_iff_occurs {s : Substitution} (hp : s.pattern.isPlain = true)
    (hs : s.pattern.isSolid = true)
    (hne : ∀ b w r k, s.pattern.Takes b w r k → ∀ t, s.replace (.taken b w r k) ++ t ≠ w ++ r)
    {text : Text} :
    s.toRule.fires text = true ↔
      s.trigger.isMet text = true ∧ s.pattern.Occurs [] text := by
  rw [Rule.fires_iff]
  exact and_congr_right fun _ => (not_congr (apply_eq_self_iff_not_occurs hp hs hne)).trans not_not

/-- If the trigger is met wherever the pattern fits, it makes no difference to the result. -/
theorem run_eq_apply {s : Substitution} (hp : s.pattern.isPlain = true)
    (htrigger : ∀ text, s.pattern.Occurs [] text → s.trigger.isMet text = true) (text : Text) :
    s.toRule.run text = s.apply text := by
  by_cases hocc : s.pattern.Occurs [] text
  · exact Rule.run_of_trigger (htrigger text hocc)
  · have hself := apply_of_not_occurs hp hocc
    rw [hself]
    exact Rule.run_of_not_fires (by simp [Rule.fires, toRule, hself])

end Substitution

end CodeMigration
