import CodeMigration.Proofs.StayingWords

/-!
# CodeMigration.Proofs.ExportPasses

What a second pass of the migration to named exports finds in the result of a first.
One pass does not convert everything. The function and the class rule leave behind what
was hidden in one of their matches; the match may begin in a comment, take the word
`export` of the next line for the name of a function, and so pass over the declaration
on that line. Moving lines in addition brings together what stood around them.

A second pass sees any of this only if the words `export default` stand outside the lines
that are moved, with a single space between them. `idempotentAt_iff_not_leftover` puts the
two together. It also says what is enough for a first pass that moves lines: that in the
lines that stay nothing can be read as a default export.
-/

namespace CodeMigration.NamedExports

open Pattern

/-- The text after the function rule. -/
def afterFunctions (text : Text) : Text := functionRule.toRule.run text

/-- The text after the function and the class rule. -/
def afterClasses (text : Text) : Text := classRule.toRule.run (afterFunctions text)

theorem after_migrate (text : Text) :
    (migration.migrate text).after = trailingRule.run (afterClasses text) := by
  show (runRules [functionRule.toRule, classRule.toRule, trailingRule] text).1 = _
  rw [runRules_cons_fst, runRules_cons_fst, runRules_cons_fst]
  rfl

theorem after_migrate_of_not_moved {text : Text} (h : trailingEdits (afterClasses text) = []) :
    (migration.migrate text).after = afterClasses text := by
  rw [after_migrate]
  exact Rule.run_of_not_fires (by simp [← Bool.not_eq_true, fires_trailingRule_iff, h])

/-- A default export of the kind begins inside a match of another. -/
def Kind.HidesIn (K : Kind) (text : Text) : Prop :=
  ∃ m ∈ K.pattern.matchesIn text, K.pattern.Hides m

/-- The text has a default export that a rule could convert. -/
def Convertible (text : Text) : Prop :=
  functions.pattern.Occurs [] text ∨ classes.pattern.Occurs [] text ∨ trailingEdits text ≠ []

/-- What the first pass leaves to the second. If it moves no line, only what was hidden
in a match is left. If it moves lines, then there may also be what the words that are put in
and the lines that are gone bring together. -/
def Leftover (text : Text) : Prop :=
  let lines := afterClasses text
  if trailingEdits lines = [] then
    functions.HidesIn text ∨ classes.HidesIn (afterFunctions text)
  else
    Convertible (woven (wordsMoved lines) (inMovedLine lines) 0 lines)

/-- No rule fires on a text that lacks the words of a default export or has none that a
rule could convert. -/
theorem forall_fires_eq_false_iff {text : Text} :
    (∀ rule ∈ migration.rules, rule.fires text = false) ↔
      ¬ (Text.occurs "export default".toList text = true ∧ Convertible text) := by
  have hfunction : functionRule.toRule.fires text = true ↔ _ :=
    Kind.fires_declarationRule_iff (K := functions)
  have hclass : classRule.toRule.fires text = true ↔ _ :=
    Kind.fires_declarationRule_iff (K := classes)
  simp only [migration, List.forall_mem_cons, List.not_mem_nil, false_implies, implies_true,
    and_true, ← Bool.not_eq_true, hfunction, hclass, fires_trailingRule_iff, Convertible]
  rw [and_or_left, and_or_left, not_or, not_or]

theorem trigger_eq_occurs {K : Kind} {kind : String} (text : Text) :
    (declarationRule kind K.declaration).toRule.trigger text =
      Text.occurs "export default".toList text := Trigger.isMet_requiring _ text

/-- After the function and the class rule only hidden default exports of either kind are
left. -/
theorem occurs_afterClasses_iff {text : Text}
    (h : Text.occurs "export default".toList (afterClasses text) = true) :
    (functions.pattern.Occurs [] (afterClasses text) ∨
      classes.pattern.Occurs [] (afterClasses text)) ↔
      functions.HidesIn text ∨ classes.HidesIn (afterFunctions text) := by
  have hclass : classRule.toRule.trigger (afterFunctions text) = true :=
    Rule.trigger_of_trigger_run ((trigger_eq_occurs (K := classes) _).trans h)
  have hfunction : functionRule.toRule.trigger text = true :=
    Rule.trigger_of_trigger_run ((trigger_eq_occurs (K := functions) _).trans
      ((trigger_eq_occurs (K := classes) _).symm.trans hclass))
  have hafter : afterFunctions text = functions.pattern.replaceAll exportNamed text :=
    Rule.run_of_trigger hfunction
  have hafter' : afterClasses text =
      classes.pattern.replaceAll exportNamed (afterFunctions text) := Rule.run_of_trigger hclass
  rw [hafter', Kind.occurs_apply_iff_of_ne classes_ne_functions, Kind.occurs_apply_iff_hides, hafter,
    Kind.occurs_apply_iff_hides]
  rfl

theorem after_migrate_of_words {text : Text}
    (h : Text.occurs "export default".toList (afterClasses text) = true) :
    (migration.migrate text).after = moveTrailing (afterClasses text) := by
  rw [after_migrate]
  exact Rule.run_of_trigger h

/-- The result of a pass has the words of a default export just if they stand outside the lines
that it moves. -/
theorem occurs_after_migrate_iff (text : Text) :
    Text.occurs "export default".toList (migration.migrate text).after = true ↔
      WordsStay (afterClasses text) := by
  by_cases hwords : Text.occurs "export default".toList (afterClasses text) = true
  · rw [after_migrate_of_words hwords, occurs_moveTrailing_iff]
  · have hsame : (migration.migrate text).after = afterClasses text := by
      rw [after_migrate]
      exact Rule.run_of_not_fires (Bool.eq_false_iff.2 fun hfires =>
        hwords (fires_trailingRule_iff.1 hfires).1)
    rw [hsame]
    exact iff_of_false hwords fun hstay => hwords hstay.occurs

/-- In a settled text no rule finds anything once its lines are moved. -/
theorem Settled.not_convertible {text : Text} (h : Settled text) :
    ¬ Convertible (moveTrailing text) := by
  rintro (⟨u, v, heq, hfits⟩ | ⟨u, v, heq, hfits⟩ | hmoves)
  · exact h.not_opensExport heq ⟨_, .inl hfits⟩
  · exact h.not_opensExport heq ⟨_, .inr (.inl hfits)⟩
  · obtain ⟨m, hm, -⟩ := trailingEdits_ne_nil_iff.1 hmoves
    obtain ⟨u, v, heq, hfits⟩ := (isMatch_iff isPlain_trailingDefault _).1
      (matchesIn_ne_nil_iff.1 (List.ne_nil_of_mem hm))
    exact h.not_opensExport heq ⟨_, .inr (.inr hfits)⟩

/-- A second pass changes nothing just if the first leaves nothing to it, or leaves it no
text with the words `export default`. Where all that stays is settled, it changes nothing. -/
theorem idempotentAt_iff_not_leftover (text : Text) :
    (migration.IdempotentAt text ↔ ¬ (WordsStay (afterClasses text) ∧ Leftover text)) ∧
      (Settled (afterClasses text) → migration.IdempotentAt text) := by
  rw [Migration.idempotentAt_iff, forall_fires_eq_false_iff, occurs_after_migrate_iff]
  refine ⟨not_congr (and_congr_right fun hstay => ?_), fun hsettled => ?_⟩
  · rw [Leftover]
    split
    · next hmoves =>
      have hwords := hstay.occurs
      rw [after_migrate_of_not_moved hmoves, ← occurs_afterClasses_iff hwords, Convertible, hmoves]
      simp
    · rw [after_migrate_of_words hstay.occurs, moveTrailing_eq]
  · intro ⟨hstay, hleft⟩
    rw [after_migrate_of_words hstay.occurs] at hleft
    exact hsettled.not_convertible hleft

/-- A comment keeps the words, with a brace behind them. -/
theorem idempotentAt_words_in_comment :
    let text := "// export default \x7b A \x7d\nclass A \x7b\x7d\nexport default A\n".toList
    WordsStay (afterClasses text) ∧ Settled (afterClasses text) ∧ migration.IdempotentAt text := by
  intro text
  have hsame : afterClasses text = text := by decide +kernel
  have hstay : WordsStay text := ⟨3, by decide, by decide +kernel⟩
  have hplaces : ∀ i < text.length, "export".toList <+: text.drop i →
      inMovedLine text i = false → i = 3 := by decide +kernel
  have hsettled : Settled text := by
    intro u r htext hstays
    have hlength : u.length < text.length := by
      rw [htext, List.length_append, List.length_append]
      exact Nat.lt_add_of_pos_right (Nat.add_pos_left (by decide) _)
    have hdrop : text.drop u.length = "export".toList ++ r := by rw [htext, List.drop_left]
    have hplace := hplaces u.length hlength (by rw [hdrop]; exact List.prefix_append _ _) hstays
    rw [hplace] at hdrop
    have hcomment : text.drop 3 = "export".toList ++ (" default \x7b".toList ++ text.drop 19) := by
      decide
    have hr := List.append_cancel_left (hdrop.symm.trans hcomment)
    refine ⟨" default \x7b".toList, text.drop 19, hr, by decide, fun z => ?_⟩
    exact not_opensExport_of_no_name (s := [' ']) (t := [' ']) spaces1_blank spaces1_blank
      (by decide) (by decide)
  rw [hsame]
  exact ⟨hstay, hsettled, (idempotentAt_iff_not_leftover text).2 (hsame.symm ▸ hsettled)⟩

/-- The name that the first match takes is the word `export` of the next line, so the
function on that line is left to the second pass. -/
theorem not_idempotentAt_function_in_comment :
    ¬ migration.IdempotentAt
      "// export default function\nexport default function f() \x7b\x7d\n".toList := by
  decide +kernel

end CodeMigration.NamedExports
