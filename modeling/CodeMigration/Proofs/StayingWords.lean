import CodeMigration.Proofs.MovedLines

/-!
# CodeMigration.Proofs.StayingWords

Whether a text still has the words `export default` when lines have been moved. The words that are
put in never give new ones, since no declaration begins with the word `default`
(`infix_exportWords_iff`), and taking lines away never brings the two words together, since lines
are taken away whole and there is no line break in the words (`prefix_woven_iff`). So the words that
are left are those that stood outside the moved lines before (`occurs_moveTrailing_iff`).
-/

namespace CodeMigration.NamedExports

/-- The words `export default` begin in the text outside the lines that are moved. -/
def WordsStay (text : Text) : Prop :=
  ∃ i, "export default".toList <+: text.drop i ∧ inMovedLine text i = false

theorem WordsStay.occurs {text : Text} (h : WordsStay text) :
    Text.occurs "export default".toList text = true := by
  obtain ⟨i, ⟨v, hv⟩, -⟩ := h
  exact Text.occurs_iff.2 ⟨text.take i, v, by rw [List.append_assoc, hv, List.take_append_drop]⟩

/-! ### Words that are put in -/

/-- What begins before a declaration begins with its first letter or with a word that is put in. -/
theorem exists_head_exportWords (n : Nat) (c : Char) (t : Text) :
    ∃ d r, exportWords n ++ c :: t = d :: r ∧ (d = c ∨ d = 'e') := by
  cases n with
  | zero => exact ⟨c, t, rfl, .inl rfl⟩
  | succ n => exact ⟨'e', _, rfl, .inr rfl⟩

theorem infix_exportWords_iff {n : Nat} {c : Char} {t : Text} (hc : c ≠ 'd') :
    "export default".toList <:+: exportWords n ++ c :: t ↔
      "export default".toList <:+: c :: t := by
  induction n with
  | zero => rw [exportWords_zero, List.nil_append]
  | succ n ih =>
      obtain ⟨d, r, hrest, hhead⟩ := exists_head_exportWords n c t
      have hd : d ≠ 'd' := by
        rcases hhead with rfl | rfl
        · exact hc
        · decide
      rw [← ih, hrest, exportWords_succ_eq_cons, List.cons_append, List.append_assoc, hrest]
      simp [List.infix_cons_iff, hd.symm]

/-! ### Lines that are taken away -/

/-- Inside a line that stays no word is put in and nothing is taken away. -/
theorem wordsMoved_inside {text : Text} {k : Nat} {c : Char} (hchar : text[k]? = some c)
    (hc : c ≠ '\n') (hstays : inMovedLine text k = false) :
    wordsMoved text (k + 1) = 0 ∧ inMovedLine text (k + 1) = false := by
  have hinside : ¬ BeginsLine text (k + 1) := by
    show ¬ text[k]? = some '\n'
    rw [hchar, Option.some.injEq]
    exact hc
  refine ⟨Nat.eq_zero_of_not_pos fun hpos => hinside ?_, Bool.eq_false_iff.2 fun hgone => ?_⟩
  · exact (beginsLine_of_mem_declarationPlaces (wordsMoved_pos_iff.1 hpos).2).1
  · obtain ⟨m, hm, hfound, hle, hlt⟩ := inMovedLine_iff.1 hgone
    have hstart : m.start.offset = k + 1 := by
      by_contra hne
      have hmoved := inMovedLine_iff.2 ⟨m, hm, hfound, (by omega : m.start.offset ≤ k), by omega⟩
      rw [hstays] at hmoved
      cases hmoved
    exact hinside (hstart ▸ (beginsLine_of_mem_matchesIn hm).1)

/-- From a character that stays, what has no line break is read as before. -/
theorem prefix_woven_iff {text u rest w : Text} {c : Char} (htext : text = u ++ c :: rest)
    (hstays : inMovedLine text u.length = false) (hw : '\n' ∉ w) :
    w <+: c :: woven (wordsMoved text) (inMovedLine text) (u.length + 1) rest ↔
      w <+: c :: rest := by
  induction w generalizing u c rest with
  | nil => simp
  | cons x w ih =>
      rw [List.cons_prefix_cons, List.cons_prefix_cons]
      refine and_congr_right fun hx => ?_
      subst hx
      rw [List.mem_cons, not_or] at hw
      obtain ⟨hnone, hnext⟩ :=
        wordsMoved_inside (k := u.length) (by simp [htext]) (Ne.symm hw.1) hstays
      cases rest with
      | nil => rw [woven, hnone, exportWords_zero]
      | cons d rest =>
          have hrest := ih (u := u ++ [x]) (c := d) (by simpa using htext)
            (by simpa using hnext) hw.2
          rw [woven, hnone, hnext, exportWords_zero, List.nil_append]
          simpa using hrest

/-! ### The words that are left -/

/-- From an offset on, the words are left that begin at a character that stays. -/
theorem infix_woven_iff {text u rest : Text} (htext : text = u ++ rest) :
    "export default".toList <:+: woven (wordsMoved text) (inMovedLine text) u.length rest ↔
      ∃ i, u.length ≤ i ∧ "export default".toList <+: text.drop i ∧
        inMovedLine text i = false := by
  induction rest generalizing u with
  | nil =>
      have hnone : wordsMoved text u.length = 0 :=
        (placed_declarations text).words_eq_zero (.inr (by simp [htext]))
      have hempty : ∀ i, u.length ≤ i → text.drop i = [] := fun i hi => by simpa [htext] using hi
      rw [woven, hnone, exportWords_zero]
      refine iff_of_false (by decide) ?_
      rintro ⟨i, hi, hprefix, -⟩
      rw [hempty i hi] at hprefix
      exact absurd hprefix (by decide)
  | cons c rest ih =>
      have hrest := ih (u := u ++ [c]) (by simpa using htext)
      have hdrop : text.drop u.length = c :: rest := by simp [htext]
      rw [List.length_append, List.length_singleton] at hrest
      rw [exists_le_iff, ← hrest, hdrop, woven]
      cases hgone : inMovedLine text u.length with
      | true =>
          rw [wordsMoved, hgone, if_pos rfl, if_pos rfl, exportWords_zero, List.nil_append,
            List.nil_append]
          simp
      | false =>
          have hwords : "export default".toList <:+: exportWords (wordsMoved text u.length) ++
                c :: woven (wordsMoved text) (inMovedLine text) (u.length + 1) rest ↔
              "export default".toList <:+:
                c :: woven (wordsMoved text) (inMovedLine text) (u.length + 1) rest := by
            rcases Nat.eq_zero_or_pos (wordsMoved text u.length) with hnone | hpos
            · rw [hnone, exportWords_zero, List.nil_append]
            · obtain ⟨-, d, hd, hinitial⟩ :=
                beginsLine_of_mem_declarationPlaces (wordsMoved_pos_iff.1 hpos).2
              obtain rfl : c = d := by simpa [htext] using hd
              exact infix_exportWords_iff (ne_of_mem_of_not_mem hinitial (by decide))
          show _ <:+: exportWords _ ++ ([c] ++ _) ↔ _
          rw [List.singleton_append, hwords, List.infix_cons_iff,
            prefix_woven_iff htext hgone (by decide)]
          simp

/-- The words that are left are those that began outside the moved lines. -/
theorem occurs_moveTrailing_iff (text : Text) :
    Text.occurs "export default".toList (moveTrailing text) = true ↔ WordsStay text := by
  have hinfix := infix_woven_iff (List.nil_append text).symm
  rw [List.length_nil, ← moveTrailing_eq] at hinfix
  simp only [Nat.zero_le, true_and] at hinfix
  rw [Text.occurs_iff, WordsStay, ← hinfix]
  exact exists₂_congr fun _ _ => eq_comm

/-! ### Lines in which no default export begins -/

/-- A default export that a rule could convert begins the text, in some place. -/
def OpensExport (a : Text) : Prop :=
  ∃ b, functions.pattern.Fits b a ∨ classes.pattern.Fits b a ∨ trailingDefault.Fits b a

/-- Wherever the word `export` stays, its line goes on in such a way that no default export begins
there, whatever the next lines are. -/
def Settled (text : Text) : Prop :=
  ∀ u r, text = u ++ ("export".toList ++ r) → inMovedLine text u.length = false →
    ∃ w v, r = w ++ v ∧ '\n' ∉ w ∧ ∀ z, ¬ OpensExport ("export".toList ++ (w ++ z))

/-- The words are followed by the start of a name, be it that of the kind of declaration. -/
theorem OpensExport.exists_words {a : Text} (h : OpensExport a) :
    ∃ s t c r, a = "export".toList ++ s ++ "default".toList ++ t ++ c :: r ∧ Spaces1 s ∧
      Spaces1 t ∧ Lexeme.identifierStart.contains c = true := by
  have hinitial : ∀ c ∈ ['a', 'f', 'c'], Lexeme.identifierStart.contains c = true :=
    List.all_eq_true.1 (by decide)
  obtain ⟨b, h | h | ⟨w, r, k, rfl, h⟩⟩ := h
  · obtain ⟨-, _, x, r, rfl, ⟨s, t, d, rfl, hs, ht, hd⟩, -⟩ := Kind.fits_pattern_iff.1 h
    obtain ⟨c, d, rfl, hc⟩ := functions.exists_initial d hd
    exact ⟨s, t, c, d ++ x :: r, by simp, hs, ht, hinitial c (List.mem_append_left ['c'] hc)⟩
  · obtain ⟨-, _, x, r, rfl, ⟨s, t, d, rfl, hs, ht, hd⟩, -⟩ := Kind.fits_pattern_iff.1 h
    obtain ⟨c, d, rfl, hc⟩ := classes.exists_initial d hd
    exact ⟨s, t, c, d ++ x :: r, by simp, hs, ht,
      hinitial c (List.mem_append_right ['a', 'f'] hc)⟩
  · obtain ⟨s, t, _, e, rfl, hs, ht, ⟨c, n, rfl, hc, -⟩, -⟩ := takes_trailingDefault h
    exact ⟨s, t, c, n ++ (e ++ r), by simp, hs, ht, hc⟩

/-- Before anything else than a name, the words are no default export that a rule converts. -/
theorem not_opensExport_of_no_name {s t z : Text} {c : Char} (hs : Spaces1 s) (ht : Spaces1 t)
    (hspace : Unicode.isSpace c = false) (hc : Lexeme.identifierStart.contains c = false) :
    ¬ OpensExport ("export".toList ++ s ++ "default".toList ++ t ++ c :: z) := by
  intro h
  obtain ⟨s', t', d, r, heq, hs', ht', hd⟩ := h.exists_words
  have hrest := exportHead_inj hs hs' ht ht' hspace (Lexeme.isSpace_of_identifierStart hd) heq
  obtain rfl := (List.cons.inj hrest).1
  rw [hc] at hd
  cases hd

/-- A default export begins behind a stretch in which there is not even its first letter. -/
theorem OpensExport.suffix_of_not_mem {a w t : Text} (h : OpensExport a) (hw : 'e' ∉ w)
    (ha : a <:+ w ++ t) : a <:+ t := by
  induction w with
  | nil => exact ha
  | cons x w ih =>
      rw [List.mem_cons, not_or] at hw
      rcases List.suffix_cons_iff.1 ha with rfl | ha
      · obtain ⟨s, t', c, r, heq, -⟩ := h.exists_words
        exact absurd (List.cons.inj heq).1.symm hw.1
      · exact ih hw.2 ha

/-- No default export begins in words that are put in. -/
theorem not_opensExport_exportWords {n : Nat} {c : Char} {t : Text}
    (hc : Unicode.isSpace c = false) (hd : c ≠ 'd') (hno : ∀ a, a <:+ c :: t → ¬ OpensExport a) :
    ∀ a, a <:+ exportWords n ++ c :: t → ¬ OpensExport a := by
  induction n with
  | zero => exact hno
  | succ n ih =>
      obtain ⟨d, r, hrest, hhead⟩ := exists_head_exportWords n c t
      have hstart : Unicode.isSpace d = false ∧ d ≠ 'd' := by
        rcases hhead with rfl | rfl
        · exact ⟨hc, hd⟩
        · decide
      obtain ⟨hspace, hne⟩ := hstart
      rw [hrest] at ih
      intro a ha h
      rw [exportWords_succ_eq_cons, List.cons_append, List.append_assoc, hrest] at ha
      rcases List.suffix_cons_iff.1 ha with rfl | ha
      · obtain ⟨s, t', x, r', heq, hs, -⟩ := h.exists_words
        have hblank : [' '] ++ d :: r = s ++ 'd' :: ("efault".toList ++ (t' ++ x :: r')) := by
          simpa using heq
        exact hne (spaces_blank.append_inj hs.1 hspace (by decide) hblank).2.1
      · exact ih a (h.suffix_of_not_mem (by decide) ha) h

/-- In a settled text no default export begins from an offset on. -/
theorem Settled.not_opensExport_from {text u rest : Text} (h : Settled text)
    (htext : text = u ++ rest) :
    ∀ a, a <:+ woven (wordsMoved text) (inMovedLine text) u.length rest → ¬ OpensExport a := by
  induction rest generalizing u with
  | nil =>
      have hnone : wordsMoved text u.length = 0 :=
        (placed_declarations text).words_eq_zero (.inr (by simp [htext]))
      rw [woven, hnone, exportWords_zero]
      intro a ha hopens
      rw [List.suffix_nil.1 ha] at hopens
      obtain ⟨s, t, x, r, heq, -⟩ := hopens.exists_words
      cases heq
  | cons c rest ih =>
      have hrest := ih (u := u ++ [c]) (by simpa using htext)
      rw [List.length_append, List.length_singleton] at hrest
      rw [woven]
      cases hgone : inMovedLine text u.length with
      | true =>
          rw [wordsMoved, hgone, if_pos rfl, if_pos rfl, exportWords_zero]
          exact hrest
      | false =>
          have hkept : ∀ a, a <:+ c :: woven (wordsMoved text) (inMovedLine text) (u.length + 1)
              rest → ¬ OpensExport a := by
            intro a ha hopens
            rcases List.suffix_cons_iff.1 ha with rfl | ha
            · -- The line is read as before, so what settles it is still there.
              obtain ⟨s, t, x, r', heq, -⟩ := hopens.exists_words
              obtain ⟨r, hr⟩ := (prefix_woven_iff (w := "export".toList) htext hgone
                (by decide)).1 ⟨s ++ ("default".toList ++ (t ++ x :: r')), by rw [heq]; simp⟩
              obtain ⟨w, v, rfl, hw, hno⟩ := h u r (by rw [htext, hr]) hgone
              have hline : '\n' ∉ "export".toList ++ w := by
                rw [List.mem_append, not_or]
                exact ⟨by decide, hw⟩
              obtain ⟨z, hz⟩ := (prefix_woven_iff htext hgone hline).2 ⟨v, by simpa using hr⟩
              rw [← hz, List.append_assoc] at hopens
              exact hno z hopens
            · exact hrest a ha hopens
          rcases Nat.eq_zero_or_pos (wordsMoved text u.length) with hnone | hpos
          · rw [hnone, exportWords_zero]
            exact hkept
          · obtain ⟨-, d, hd, hinitial⟩ :=
              beginsLine_of_mem_declarationPlaces (wordsMoved_pos_iff.1 hpos).2
            obtain rfl : c = d := by simpa [htext] using hd
            have hspaces : ∀ c ∈ ['a', 'f', 'c', 'l', 'v'], Unicode.isSpace c = false := by
              simp only [List.forall_mem_cons, List.not_mem_nil, false_implies, implies_true]
              decide
            exact not_opensExport_exportWords (hspaces c hinitial)
              (ne_of_mem_of_not_mem hinitial (by decide)) hkept

/-- In a settled text no default export is left when its lines have been moved. -/
theorem Settled.not_opensExport {text b a : Text} (h : Settled text)
    (heq : moveTrailing text = b ++ a) : ¬ OpensExport a := by
  have hfrom := h.not_opensExport_from (List.nil_append text).symm
  rw [List.length_nil, ← moveTrailing_eq] at hfrom
  exact hfrom a ⟨b, heq.symm⟩

end CodeMigration.NamedExports
