import CodeMigration.Migration.TypedClient
import CodeMigration.Proofs.References
import Mathlib.Data.List.TakeWhile

/-!
# CodeMigration.Proofs.RepairedReferences

What a pass of a reference rule achieves, and what it takes for a reference.

* `apply_repairs`: a pass finds all there is to redirect. It neither binds nor frees a
  variable, every reference to a wrapped variable that it leaves is a member, and a second
  pass changes nothing.
* `preciseAt_iff`: what a pass redirects need not be a reference to the variable. The rule
  looks at one character before the name. An ASCII letter there belongs to the name and a dot
  takes a member, but the rule passes over a digit or another letter before the name, and over
  white space behind the dot.
-/

namespace CodeMigration

open Lexeme Pattern

namespace ReferenceRule

/-! ### Nothing is left to redirect -/

/-- A reference to a wrapped variable that a pass leaves is a member of something else. -/
theorem head?_of_mem_matchesIn_apply {rule : ReferenceRule} (hn : rule.WellNamed) {text : Text}
    {m : Match} (hm : m ∈ rule.reference.matchesIn (rule.apply text))
    (hname : m.group nameGroup ∈ rule.wrapped text) : m.start.before.head? = some '.' := by
  by_contra hhead
  have hredirect : rule.redirect (rule.wrapped text) m = rule.redirected := by
    simp [redirect, redirected, hhead, hname]
  have hkept := redirect_of_mem_matchesIn_apply hn m hm
  obtain ⟨b, w, r, k, rfl, htakes, -⟩ := (scans_matchesIn (isPlain_reference rule)
    (isSolid_reference rule) (rule.apply text)).exists_taken m hm
  rw [hredirect, Match.text_taken] at hkept
  refine redirected_append_ne hn htakes (fun htarget => ?_) r (by rw [hkept])
  exact target_not_mem_wrapped rule text (htarget ▸ hname)

/-- A pass redirects all that there is to redirect. The same variables are wrapped in its
result, the references to them that are left are members of other objects, and a second pass
changes nothing. -/
theorem apply_repairs {rule : ReferenceRule} (hn : rule.WellNamed) (text : Text) :
    (∀ x, x ∈ rule.wrapped (rule.apply text) ↔ x ∈ rule.wrapped text) ∧
      (∀ m ∈ rule.reference.matchesIn (rule.apply text),
        m.group nameGroup ∈ rule.wrapped (rule.apply text) →
          m.start.before.head? = some '.') ∧
      rule.apply (rule.apply text) = rule.apply text := by
  have hwrapped := wrapped_apply hn text
  refine ⟨fun x => by rw [hwrapped], fun m hm hname => ?_, apply_apply hn text⟩
  rw [hwrapped] at hname
  exact head?_of_mem_matchesIn_apply hn hm hname

/-- The name of the member ends in that of the raw value, and the references stand behind a
digit, behind a dot with white space, and inside each other. -/
theorem apply_repairs_suffix :
    let rule : ReferenceRule := ⟨"", .always, "w".toList, "x".toList, "ax".toList⟩
    let text := "v = w(x)\nu = w( x )\nu. v.ax.ax.b(1u .ax. ax.c, a.v.ax.d)".toList
    let result := "v = w(x)\nu = w( x )\nu. x.ax.ax.b(1x.ax. ax.c, a.v.ax.d)".toList
    rule.WellNamed ∧ rule.apply text = result ∧ rule.apply result = result := by
  intro rule text result
  have hpart : ∀ c ∈ ['x'], identifierPart.contains c = true := by
    intro c hc
    obtain rfl := List.mem_singleton.1 hc
    decide
  have hn : rule.WellNamed :=
    { wrapper := ⟨'w', [], rfl, by decide, by simp⟩
      target := ⟨'x', [], rfl, by decide, by simp⟩
      accessor := ⟨'a', ['x'], rfl, by decide, hpart⟩
      target_ne := by decide }
  have hresult : rule.apply text = result := by decide +kernel
  have hagain := (apply_repairs hn text).2.2
  rw [hresult] at hagain
  exact ⟨hn, hresult, hagain⟩

/-! ### What is redirected -/

/-- Is the place right behind a dot that takes a member, with or without white space? The text
before the place is reversed. Which dots take a member is for the language to say, since a dot
can also end a comment or a number; `isMember` tells it from what is before the dot. -/
def isProperty (isMember : Text → Bool) (before : Text) : Bool :=
  match before.dropWhile Unicode.isSpace with
  | '.' :: b => isMember b
  | _ => false

/-- Whatever the rule redirects in the text is a reference to the variable itself: its name is
a whole one, and not that of a property. -/
def PreciseAt (rule : ReferenceRule) (isMember : Text → Bool) (text : Text) : Prop :=
  ∀ m ∈ rule.reference.matchesIn text, rule.redirect (rule.wrapped text) m ≠ m.text →
    Anchor.nearest identifierPart.contains m.start.before = false ∧
      isProperty isMember m.start.before = false

instance (rule : ReferenceRule) (isMember : Text → Bool) (text : Text) :
    Decidable (rule.PreciseAt isMember text) :=
  inferInstanceAs (Decidable (∀ m ∈ _, _ → _ ∧ _))

/-- Can the character go on in a name but not begin one? These are the digits, and the word
characters outside ASCII. -/
def isInner (c : Char) : Bool := identifierPart.contains c && !identifierStart.contains c

theorem isProperty_iff {isMember : Text → Bool} {before : Text} :
    isProperty isMember before = true ↔
      ∃ s b, before = s ++ '.' :: b ∧ Spaces s ∧ isMember b = true := by
  have hsplit := List.takeWhile_append_dropWhile (p := Unicode.isSpace) (l := before)
  constructor
  · intro h
    unfold isProperty at h
    split at h
    · next b hb =>
      rw [hb] at hsplit
      exact ⟨_, b, hsplit.symm, fun c hc => List.mem_takeWhile_imp hc, h⟩
    · cases h
  · intro h
    obtain ⟨s, b, rfl, hs, hb⟩ := h
    have hdrop : (s ++ '.' :: b).dropWhile Unicode.isSpace = '.' :: b := by
      rw [List.dropWhile_append_of_pos hs]
      rfl
    simp [isProperty, hdrop, hb]

/-- Where no name ends, a character before the place that belongs to one cannot begin it. -/
theorem nearest_of_unnamed {b : Text} (hb : Unnamed b) :
    Anchor.nearest identifierPart.contains b = Anchor.nearest isInner b := by
  cases b with
  | nil => rfl
  | cons c b =>
      have hstart : identifierStart.contains c = false := by
        rw [Bool.eq_false_iff]
        intro hc
        exact hb [c] ⟨c, [], rfl, hc, by simp⟩ ⟨b, rfl⟩
      simp [Anchor.nearest, isInner, hstart]

/-- The rule redirects nothing right behind a dot. -/
theorem redirect_of_head? (rule : ReferenceRule) (names : List Text) {m : Match}
    (h : m.start.before.head? = some '.') : rule.redirect names m = m.text := by
  simp [redirect, h]

/-- What the rule redirects are references to the variables themselves just if none of them
stands right behind a digit or a letter outside ASCII, and none behind white space and a dot
that takes a member. Other letters and a dot right before the name it sees. -/
theorem preciseAt_iff (rule : ReferenceRule) (isMember : Text → Bool) (text : Text) :
    rule.PreciseAt isMember text ↔
      ∀ m ∈ rule.reference.matchesIn text, rule.redirect (rule.wrapped text) m ≠ m.text →
        Anchor.nearest isInner m.start.before = false ∧
          ¬ ∃ s b, m.start.before = s ++ '.' :: b ∧ Spaces1 s ∧ isMember b = true := by
  refine forall_congr' fun m => forall_congr' fun hm => imp_congr_right fun hredirect => ?_
  rw [nearest_of_unnamed (unnamed_of_mem_matchesIn m hm), ← Bool.not_eq_true (isProperty _ _),
    isProperty_iff]
  refine and_congr_right fun _ => not_congr ⟨fun h => ?_, fun h => ?_⟩
  · obtain ⟨s, b, hbefore, hs, hb⟩ := h
    refine ⟨s, b, hbefore, ⟨hs, ?_⟩, hb⟩
    rintro rfl
    exact hredirect (redirect_of_head? rule _ (by rw [hbefore]; rfl))
  · obtain ⟨s, b, hbefore, hs, hb⟩ := h
    exact ⟨s, b, hbefore, hs.1, hb⟩

/-- Does the dot behind the text, which is reversed, take a member? The last of three does not. -/
def isLoneDot (before : Text) : Bool := !"..".toList.isPrefixOf before

/-- A property on the line behind the dot, and a name that goes on behind a letter outside
ASCII. -/
theorem not_preciseAt_line_break :
    ¬ (TypedClient.referenceRule {}).PreciseAt isLoneDot
        "const x = typed(client)\nthis.\n  x.auth.y()\n".toList ∧
      ¬ (TypedClient.referenceRule {}).PreciseAt isLoneDot
        "const x = typed(client)\néx.auth.y()\n".toList := by
  decide +kernel

end ReferenceRule

end CodeMigration
