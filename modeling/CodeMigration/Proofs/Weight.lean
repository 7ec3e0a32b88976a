import CodeMigration.Proofs.References
import Mathlib.Order.Basic

/-!
# CodeMigration.Proofs.Weight

What a rule does to a text can be told from a measure of the text. The weight of a text counts
its words and its marks and leaves out white space and the letters of words, so it stays the
same where a name gives way to another, or where lines are joined.

A substitution changes a text part by part. What is known of each part and of what takes its
place carries over to the whole text, if it is a relation that other characters before the part
do not disturb (`Carried`): `Pattern.spliceFrom_cases`. A migration whose rules move a measure
one way, the last of them perhaps not at all, never comes back to the text that it began with
(`Migration.changed_iff_of_raises`).
-/

namespace CodeMigration

open Lexeme

/-! ### Words and marks -/

namespace Text

/-- The weight of a text: two for each word, and one for each other character that is not white
space. With `inWord` the text goes on with a word that stands before it. -/
def weight (inWord : Bool) : Text → Nat
  | [] => 0
  | c :: rest =>
    if identifierPart.contains c then (if inWord then 0 else 2) + weight true rest
    else (if Unicode.isSpace c then 0 else 1) + weight false rest

/-- Does the text end in a word? An empty one does if it goes on with a word. -/
def endsInWord (inWord : Bool) : Text → Bool
  | [] => inWord
  | c :: rest => endsInWord (identifierPart.contains c) rest

theorem weight_append (inWord : Bool) (u v : Text) :
    weight inWord (u ++ v) = weight inWord u + weight (endsInWord inWord u) v := by
  induction u generalizing inWord with
  | nil => simp [weight, endsInWord]
  | cons c u ih =>
      rw [List.cons_append, weight, weight, endsInWord]
      split
      · next hc => rw [ih, hc, Nat.add_assoc]
      · next hc => rw [ih, Bool.eq_false_iff.2 hc, Nat.add_assoc]

/-- A word that goes on need not be counted again. -/
theorem weight_le_weight_false (inWord : Bool) (u : Text) :
    weight inWord u ≤ weight false u := by
  cases inWord with
  | false => exact Nat.le_refl _
  | true =>
      cases u with
      | nil => exact Nat.le_refl _
      | cons c u =>
          rw [weight, weight]
          split
          · simp
          · exact Nat.le_refl _

theorem weight_false_le_add_two (inWord : Bool) (u : Text) :
    weight false u ≤ weight inWord u + 2 := by
  cases inWord with
  | false => exact Nat.le_add_right _ 2
  | true =>
      cases u with
      | nil => exact Nat.zero_le _
      | cons c u =>
          rw [weight, weight]
          split
          · simp only [Bool.false_eq_true, if_false, if_true]
            omega
          · exact Nat.le_add_right _ 2

theorem weight_mark (inWord : Bool) {c : Char} (hc : isStop c = true) (u : Text) :
    weight inWord (c :: u) = 1 + weight false u := by
  rw [weight, identifierPart_of_isStop hc, isSpace_of_isStop hc]
  rfl

theorem weight_space (inWord : Bool) {c : Char} (hc : Unicode.isSpace c = true) (u : Text) :
    weight inWord (c :: u) = weight false u := by
  rw [weight, identifierPart_of_isSpace hc, hc]
  simp

theorem weight_spaces {s : Text} (hs : Spaces s) (u : Text) :
    weight false (s ++ u) = weight false u := by
  induction s with
  | nil => rfl
  | cons c s ih =>
      obtain ⟨hc, hs⟩ := spaces_cons.1 hs
      rw [List.cons_append, weight_space false hc, ih hs]

theorem weight_spaces1 (inWord : Bool) {s : Text} (hs : Spaces1 s) (u : Text) :
    weight inWord (s ++ u) = weight false u := by
  obtain ⟨c, t, hst, hc, -⟩ := hs.exists_cons []
  rw [List.append_nil] at hst
  subst hst
  obtain ⟨-, ht⟩ := spaces_cons.1 hs.1
  rw [List.cons_append, weight_space inWord hc, weight_spaces ht]

theorem weight_spaces_mark (inWord : Bool) {s : Text} (hs : Spaces s) {c : Char}
    (hc : isStop c = true) (u : Text) : weight inWord (s ++ c :: u) = 1 + weight false u := by
  by_cases hnil : s = []
  · rw [hnil]
    exact weight_mark inWord hc u
  · rw [weight_spaces1 inWord ⟨hs, hnil⟩, weight_mark false hc]

theorem weight_identifier (inWord : Bool) {x : Text} (hx : Identifier x) (u : Text) :
    weight inWord (x ++ u) = (if inWord then 0 else 2) + weight true u := by
  obtain ⟨c, v, rfl, hc, hv⟩ := hx
  have hgoes : weight true (v ++ u) = weight true u := by
    clear hc
    induction v with
    | nil => rfl
    | cons d v ih =>
        obtain ⟨hd, hv⟩ := List.forall_mem_cons.1 hv
        rw [List.cons_append, weight, if_pos hd, ih hv]
        simp
  rw [List.cons_append, weight, if_pos (identifierPart_of_identifierStart hc), hgoes]

/-- The first text weighs less than the second, whatever stands before them. -/
def Lighter (u v : Text) : Prop := ∀ inWord, weight inWord u < weight inWord v

/-- The texts have the same weight, whatever stands before them. -/
def Balanced (u v : Text) : Prop := ∀ inWord, weight inWord u = weight inWord v

end Text

/-! ### From the parts of a text to the whole -/

/-- The relation between texts is transitive, and a character before both does not disturb it. -/
structure Carried (R : Text → Text → Prop) : Prop where
  trans : ∀ {u v w}, R u v → R v w → R u w
  cons : ∀ (c : Char) {u v}, R u v → R (c :: u) (c :: v)

theorem Carried.append {R : Text → Text → Prop} (hR : Carried R) (w : Text) {u v : Text}
    (h : R u v) : R (w ++ u) (w ++ v) := by
  induction w with
  | nil => exact h
  | cons c w ih => exact hR.cons c ih

theorem carried_lighter : Carried Text.Lighter where
  trans huv hvw inWord := Nat.lt_trans (huv inWord) (hvw inWord)
  cons c _ _ h inWord := by
    rw [Text.weight, Text.weight]
    split
    · exact Nat.add_lt_add_left (h true) _
    · exact Nat.add_lt_add_left (h false) _

theorem carried_balanced : Carried Text.Balanced where
  trans huv hvw inWord := (huv inWord).trans (hvw inWord)
  cons c _ _ h inWord := by
    rw [Text.weight, Text.weight, h true, h false]

theorem carried_longer : Carried fun u v : Text => v.length < u.length where
  trans huv hvw := Nat.lt_trans hvw huv
  cons _ _ _ h := Nat.succ_lt_succ h

namespace Pattern

/-- If every replacement is the text that it replaces or stands in the relation to it, then a
substitution leaves the text as it is or gives one that stands in the relation to it. -/
theorem spliceFrom_cases {p : Pattern} {replace : Match → Text} {R : Text → Text → Prop}
    (hR : Carried R)
    (hreplace : ∀ b w r k, p.Takes b w r k → replace (.taken b w r k) = w ∨
      ∀ t, R (w ++ t) (replace (.taken b w r k) ++ t))
    {b a : Text} {ms : List Match} (hscan : Scans p b a ms) :
    spliceFrom replace (.between b a) ms = a ∨ R a (spliceFrom replace (.between b a) ms) := by
  induction hscan with
  | done => exact .inl rfl
  | @skip b a x ms _ hs ih =>
      rw [spliceFrom_skip fun m hm => hs.le_start m hm]
      rcases ih with heq | hrest
      · exact .inl (by rw [heq])
      · exact .inr (hR.cons x hrest)
  | @found b w a k ms _ ht _ _ ih =>
      rw [spliceFrom_found]
      rcases hreplace b w a k ht with hsame | hpart
      · rw [hsame]
        exact ih.imp (fun heq => by rw [heq]) (hR.append w)
      · -- The replacement makes a difference whatever becomes of the rest.
        refine .inr ?_
        rcases ih with heq | hrest
        · rw [heq]
          exact hpart a
        · exact hR.trans (hR.append w hrest) (hpart _)

end Pattern

/-! ### Rules that move a measure -/

section

variable {α : Type} [Preorder α] (measure : Text → α)

/-- A rule that fires makes the measure greater. -/
def Rule.Raises (rule : Rule) : Prop :=
  ∀ text, rule.fires text = true → measure text < measure (rule.apply text)

variable {measure}

theorem Rule.Raises.le_run {rule : Rule} (h : rule.Raises measure) (text : Text) :
    measure text ≤ measure (rule.run text) := by
  unfold Rule.run
  split
  · next hfires => exact le_of_lt (h text hfires)
  · exact le_refl _

/-- Rules that raise the measure have raised it, or it is all left to the last rule. -/
theorem runRules_raises {front : List Rule} {last : Rule}
    (hfront : ∀ rule ∈ front, rule.Raises measure)
    (hlast : ∀ text, measure text ≤ measure (last.run text)) (text : Text) :
    measure text < measure (runRules (front ++ [last]) text).1 ∨
      runRules (front ++ [last]) text = runRules [last] text := by
  induction front generalizing text with
  | nil => exact .inr rfl
  | cons rule front ih =>
      obtain ⟨hrule, hrest⟩ := List.forall_mem_cons.1 hfront
      rw [List.cons_append, runRules]
      split
      · next hfires =>
        refine .inl (lt_of_lt_of_le (hrule text hfires) ?_)
        rcases ih hrest (rule.apply text) with hmore | hsame
        · exact le_of_lt hmore
        · dsimp only
          rw [hsame, runRules_cons_fst]
          exact hlast _
      · exact ih hrest text

/-- A migration whose rules raise a measure, but for the last one, which may leave it as it is,
changes every text on which one of its rules fires. -/
theorem Migration.changed_iff_of_raises (measure : Text → α) (front : List Rule) {last : Rule}
    {migration : Migration}
    (hrules : migration.rules = front ++ [last])
    (hfront : ∀ rule ∈ front, rule.Raises measure)
    (hlast : ∀ text, measure text ≤ measure (last.run text)) (text : Text) :
    (migration.migrate text).changed = true ↔ (migration.migrate text).after ≠ text := by
  constructor
  · intro hchanged heq
    have hmigrate : (migration.migrate text).after = (runRules (front ++ [last]) text).1 := by
      rw [← hrules]
      rfl
    rcases runRules_raises hfront hlast text with hmore | hsame
    · rw [← hmigrate, heq] at hmore
      exact lt_irrefl _ hmore
    · -- Only the last rule is left, and it fires only if it changes the text.
      rw [hmigrate, hsame, runRules_cons_fst] at heq
      have hidle : last.fires text = false := by
        rw [← Bool.not_eq_true]
        intro hfires
        refine (Rule.fires_iff.1 hfires).2 ?_
        rwa [← Rule.run_of_trigger (Rule.fires_iff.1 hfires).1]
      rw [Outcome.changed, Migration.migrate, hrules, hsame] at hchanged
      simp [runRules, hidle] at hchanged
  · intro hne
    by_contra hchanged
    refine hne (runRules_fst_of_idle fun rule hrule => ?_)
    rw [← Bool.not_eq_true]
    intro hfires
    exact hchanged (Migration.changed_migrate_iff.2 ⟨rule, hrule, hfires⟩)

end

namespace Substitution

/-- A substitution that fires gives a text that stands in the relation to the old one. -/
theorem apply_of_fires {s : Substitution} (hp : s.pattern.isPlain = true)
    (hs : s.pattern.isSolid = true) {R : Text → Text → Prop} (hR : Carried R)
    (hreplace : ∀ b w r k, s.pattern.Takes b w r k → s.replace (.taken b w r k) = w ∨
      ∀ t, R (w ++ t) (s.replace (.taken b w r k) ++ t))
    {text : Text} (hfires : s.toRule.fires text = true) : R text (s.apply text) :=
  (Pattern.spliceFrom_cases hR hreplace (Pattern.scans_matchesIn hp hs text)).resolve_left
    (Rule.fires_iff.1 hfires).2

end Substitution

end CodeMigration
