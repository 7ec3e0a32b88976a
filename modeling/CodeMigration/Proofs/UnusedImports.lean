import CodeMigration.Proofs.NestedLinks
import CodeMigration.Proofs.RuleSequences

/-!
# CodeMigration.Proofs.UnusedImports

When the import of the inner component has a use. The import comes first, where the opening of a
link up to its sign stands in the text, but this need not become a link:

```text
<Outer href="/orders">Orders</Outer>            a link
<Outer href="/orders" class="x">Orders</Outer>  none, but the import is added
```

A pass keeps the inner elements of a text (`HasInner.replaceAll`) and makes one of every link that
it takes (`hasInner_of_occurs`). So the import has a use in the end just if the text with the import
has an inner element or a link of either form (`noUnusedImportAt_iff`).
-/

namespace CodeMigration

/-- What is made of a match stands in the text with every match replaced. -/
theorem exists_spliceFrom_of_mem {replace : Match → Text} {ms : List Match} {m : Match}
    (h : m ∈ ms) (place : Cursor) : ∃ u v, spliceFrom replace place ms = u ++ replace m ++ v := by
  induction ms generalizing place with
  | nil => cases h
  | cons first ms ih =>
      rcases List.mem_cons.1 h with rfl | hmem
      · exact ⟨_, _, rfl⟩
      · obtain ⟨u, v, hsplice⟩ := ih hmem first.stop
        exact ⟨place.textUntil first.start ++ replace first ++ u, v, by simp [spliceFrom, hsplice]⟩

namespace PrefetchLink

open Pattern Piece

section

variable (names : PrefetchLinkSettings)

/-- An inner element begins the text. -/
def BeginsInner (a : Text) : Prop :=
  ∃ r, a = '<' :: names.inner.toList ++ r ∧ Anchor.nearest Unicode.isWord r = false

/-- The text has an inner element. -/
def HasInner (text : Text) : Prop := ∃ u v, text = u ++ v ∧ BeginsInner names v

/-- If the import of the inner component is added, then there is an inner element in the end. -/
def NoUnusedImportAt (text : Text) : Prop :=
  (importRule names).id ∈ ((migration names).migrate text).applied →
    HasInner names ((migration names).migrate text).after

end

section

variable {names : PrefetchLinkSettings}

theorem hasInner_nestedOpening (u v : Text) : HasInner names (u ++ nestedOpening names ++ v) := by
  refine ⟨u ++ '<' :: names.outer.toList ++ ' ' :: names.outerFlag.toList ++ ['>'], _, ?_,
    ' ' :: names.linkAttribute.toList ++ '=' :: v, rfl, ?_⟩
  · simp [nestedOpening]
  · show Unicode.isWord ' ' = false
    decide

/-- Every link that a pass takes becomes an inner element. -/
theorem hasInner_of_occurs {F : Form} {text : Text} (h : (F.pattern names).Occurs [] text) :
    HasInner names ((F.pattern names).replaceAll (wrapLink names) text) := by
  have hne := matchesIn_ne_nil_iff.2 ((isMatch_iff F.isPlain_pattern text).2 h)
  obtain ⟨m, hm⟩ := List.exists_mem_of_ne_nil _ hne
  obtain ⟨b, w, r, k, rfl, htakes, -⟩ :=
    (scans_matchesIn F.isPlain_pattern F.isSolid_pattern text).exists_taken m hm
  obtain ⟨u, v, hsplice⟩ : ∃ u v, spliceFrom (wrapLink names) (Cursor.start text)
      ((F.pattern names).matchesIn text) = u ++ wrapLink names (.taken b w r k) ++ v :=
    exists_spliceFrom_of_mem hm (Cursor.start text)
  obtain ⟨o, value, s, t, c, -, -, -, -, -, hnested⟩ := wrapLink_of_takes htakes
  have hresult : HasInner names
      (u ++ nestedOpening names ++ (value ++ '>' :: t ++ nestedClosing names ++ v)) :=
    hasInner_nestedOpening u _
  rw [replaceAll, hsplice, hnested]
  simpa using hresult

/-- What ends a name behind it in the old text does so in the new one. -/
theorem nearest_newText {F : Form} {ps : List Piece} (hps : All (Turned names F) ps)
    (h : Anchor.nearest Unicode.isWord (oldText ps) = false) :
    Anchor.nearest Unicode.isWord (newText ps) = false := by
  cases ps with
  | nil => rfl
  | cons p ps =>
      cases p with
      | kept c => exact h
      | swapped o n =>
          rw [newText_swapped]
          cases hps.head with
          | opening _ _ => show Unicode.isWord '<' = false; decide
          | bracket _ => show Unicode.isWord '>' = false; decide
          | closing _ => show Unicode.isWord '<' = false; decide

/-- An inner element at a character that stays is there in the new text too. -/
theorem beginsInner_newText (hn : WellNamed names) {F : Form} {c : Char} {ps : List Piece}
    (hps : All (Turned names F) ps) (h : BeginsInner names (c :: oldText ps)) :
    BeginsInner names (c :: newText ps) := by
  obtain ⟨r, heq, hr⟩ := h
  obtain ⟨rfl, hname⟩ := List.cons.inj heq
  -- The name stays, for no part begins in it.
  obtain ⟨qs, rfl, hqs⟩ := eq_kept_append hname fun o n hmem a b hab hb => by
    obtain ⟨part, hreads, -⟩ := (hps o n hmem).samePart
    obtain ⟨d, b, rfl⟩ := List.exists_cons_of_ne_nil hb
    have hname := ne_of_isNameChar (hn.inner.2 d (by simp [hab]))
    exact hreads.not_isPrefix_cons hn ⟨hname.1, hname.2.1, hname.2.2.2⟩
  have hall : All (Turned names F) qs := fun o n hmem => hps o n (List.mem_append_right _ hmem)
  refine ⟨newText qs, ?_, nearest_newText hall (hqs ▸ hr)⟩
  rw [newText_append, newText_map_kept]
  rfl

section

variable (hn : WellNamed names) (hd : ∀ r, ¬ BeginsInner names ('<' :: names.outer.toList ++ r))

include hn hd

/-- No inner element begins in a part of a link that gives way. -/
theorem never_beginsInner_of_turned {F : Form} {o n : Text} (h : Turned names F o n) :
    Never (BeginsInner names) o := by
  intro u v t huv hv hinner
  obtain ⟨r, heq, -⟩ := id hinner
  obtain ⟨c, v, rfl⟩ := List.exists_cons_of_ne_nil hv
  obtain ⟨rfl, htail⟩ := List.cons.inj heq
  cases u with
  | cons d u =>
      subst huv
      exact bracket_not_mem_of_turned hn h (by simp)
  | nil =>
      -- The part begins with the bracket, so it is a tag, but with another name or none.
      cases h with
      | opening hh hq =>
          obtain ⟨s₁, s₂, s₃, rfl, -, -, -⟩ := hh
          rw [← List.nil_append ('<' :: v), ← huv] at hinner
          simp only [List.cons_append, List.append_assoc] at hinner
          exact hd _ hinner
      | @bracket s hs =>
          cases s with
          | nil => exact absurd (List.cons.inj huv).1 (by decide)
          | cons d s =>
              obtain ⟨rfl, -⟩ := List.cons.inj huv
              exact absurd (spaces_cons.1 hs).1 (by decide)
      | closing hc =>
          obtain ⟨s, rfl, hs⟩ := hc
          obtain ⟨i, inner, hi⟩ := List.exists_cons_of_ne_nil hn.inner.1
          obtain ⟨-, rfl⟩ := List.cons.inj huv
          rw [hi] at htail
          obtain ⟨rfl, -⟩ := List.cons.inj htail
          exact absurd (hn.inner.2 '/' (by simp [hi])) (by decide)

/-- The inner elements of a text stay. -/
theorem hasInner_newText {F : Form} {ps : List Piece} (hps : All (Turned names F) ps)
    (h : HasInner names (oldText ps)) : HasInner names (newText ps) := by
  refine exists_newText_of_exists ?_ (fun c ps hps => beginsInner_newText hn hps)
    (fun o n ps hon => .inl (never_beginsInner_of_turned hn hd hon)) hps h
  rintro ⟨r, heq, -⟩
  cases heq

/-- A pass keeps the inner elements of a text. -/
theorem HasInner.replaceAll {F : Form} {text : Text} (h : HasInner names text) :
    HasInner names ((F.pattern names).replaceAll (wrapLink names) text) := by
  obtain ⟨ps, hold, hnew, hall, -⟩ :=
    (F.cuts hn).exists_pieces (scans_matchesIn F.isPlain_pattern F.isSolid_pattern text)
  rw [replaceAll_eq, ← hnew]
  exact hasInner_newText hn hd hall (hold ▸ h)

/-- There is an inner element after a pass just if there was one before, or a link. -/
theorem hasInner_replaceAll_iff {F : Form} {text : Text} :
    HasInner names ((F.pattern names).replaceAll (wrapLink names) text) ↔
      HasInner names text ∨ (F.pattern names).Occurs [] text := by
  constructor
  · intro h
    by_cases hlink : (F.pattern names).Occurs [] text
    · exact .inr hlink
    · have hidle : (F.rule names "").toRule.fires text = false :=
        Bool.eq_false_iff.2 fun hfires => hlink ((Form.fires_rule_iff hn).1 hfires)
      have hsame : (F.pattern names).replaceAll (wrapLink names) text = text := by
        rw [← Form.run_rule, Rule.run_of_not_fires hidle]
      exact .inl (hsame ▸ h)
  · intro h
    cases h with
    | inl hinner => exact hinner.replaceAll hn hd
    | inr hlink => exact hasInner_of_occurs hlink

end

end

theorem mem_applied_import_iff {text : Text} :
    (importRule {}).id ∈ ((migration {}).migrate text).applied ↔
      (importRule {}).toRule.fires text = true := by
  show _ ∈ (runRules ((importRule {}).toRule :: [(expressionRule {}).toRule,
    (stringRule {}).toRule]) text).2 ↔ _
  rw [runRules_cons, List.mem_append]
  have hlater : ∀ later, (importRule {}).id ∉
      (runRules [(expressionRule {}).toRule, (stringRule {}).toRule] later).2 :=
    fun later hmem => absurd ((runRules_snd_sublist _ later).subset hmem) (by decide)
  rw [or_iff_left (hlater _)]
  cases (importRule {}).toRule.fires text with
  | true => exact iff_of_true List.mem_cons_self rfl
  | false => simp

theorem not_beginsInner_outer (r : Text) :
    ¬ BeginsInner {} ('<' :: ({} : PrefetchLinkSettings).outer.toList ++ r) := by
  intro h
  obtain ⟨r', heq, -⟩ := h
  have hinitials := (List.cons.inj (List.cons.inj heq).2).1
  exact absurd hinitials (by decide)

/-- The import has a use in the end just if the text with the import has an inner element, or a
link of one of the forms. -/
theorem noUnusedImportAt_iff (text : Text) :
    NoUnusedImportAt {} text ↔ ((importRule {}).toRule.fires text = true →
      HasInner {} (withImport {} text) ∨ ∃ u v, withImport {} text = u ++ v ∧
        (BeginsLink {} braced v ∨ BeginsLink {} quoted v)) := by
  have hlinks : ∀ F : Form, (F.pattern {}).Occurs [] (withImport {} text) ↔
      ∃ u v, withImport {} text = u ++ v ∧ BeginsLink {} F v := by
    intro F
    simp only [Occurs, Form.pattern, fits_element_iff]
  -- The links given by a string are the same before and after those given by an expression.
  have hother : ∀ q ∈ braced.initials, q ∉ quoted.initials :=
    fun q hbraced hquoted => quoted_ne_braced q hquoted hbraced
  unfold NoUnusedImportAt
  rw [mem_applied_import_iff, after_migrate_eq,
    hasInner_replaceAll_iff wellNamed_default not_beginsInner_outer, afterExpressions_eq,
    hasInner_replaceAll_iff wellNamed_default not_beginsInner_outer,
    Form.occurs_apply_iff_of_ne wellNamed_default hother, hlinks, hlinks, or_assoc]
  simp only [and_or_left, exists_or]

/-- With another attribute behind the first the opening is no link, but the import is added. -/
theorem not_noUnusedImportAt_second_attribute :
    ¬ NoUnusedImportAt {}
      "import 'a'\n<BreadcrumbLink href=\"/\" id=\"b\">A</BreadcrumbLink>".toList := by
  intro h
  let outcome := (migration {}).migrate
    "import 'a'\n<BreadcrumbLink href=\"/\" id=\"b\">A</BreadcrumbLink>".toList
  have hrun : (importRule {}).id ∈ outcome.applied ∧
      Text.occurs "<PrefetchLink".toList outcome.after = false := by
    decide +kernel
  obtain ⟨u, v, hafter, r, rfl, -⟩ := h hrun.1
  have hoccurs : Text.occurs "<PrefetchLink".toList outcome.after = true :=
    Text.occurs_iff.2 ⟨u, r, hafter.trans (List.append_assoc _ _ _).symm⟩
  rw [hrun.2] at hoccurs
  cases hoccurs

end PrefetchLink

end CodeMigration
