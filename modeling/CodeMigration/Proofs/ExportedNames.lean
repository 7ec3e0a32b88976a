import CodeMigration.Proofs.TrailingExports

/-!
# CodeMigration.Proofs.ExportedNames

Which name a default export gives to the declaration that the migration exports. The scan
for that name and the rules read the text with patterns of their own, but what stands
before a name is clear from the text and names are taken whole, so at one place they read
the same name (`exportNamed_of_takes`). From that it follows that the name is exported

* if all default exports in the text are of one kind, by the pass for that kind
  (`declaresExport_replaceAll`);
* if a line gives the name, by moving the line, provided that no edit touches the
  declaration that is found for the name (`declaresExport_moveTrailing`).
-/

namespace CodeMigration.NamedExports

open Lexeme Pattern

/-! ### Declarations of any kind -/

/-- What stands before the name of a class that is said to be asynchronous. -/
def AsyncClassHead (h : Text) : Prop :=
  ∃ s g, h = "async".toList ++ s ++ g ∧ Spaces1 s ∧ ClassHead g

/-- The declaration of a class that is said to be asynchronous. -/
def asyncClassDeclaration : Pattern :=
  .seqs [.literal "async", blanks1, .literal "class", blanks1, identifier]

theorem takes_asyncClassDeclaration_iff (b d a : Text) (k : Captures) :
    asyncClassDeclaration.Takes b d a k ↔ Declares AsyncClassHead d ∧ k = [] := by
  simp only [asyncClassDeclaration, takes_seqs_iff, takesAll_literal_cons, takesAll_blanks1_cons,
    takesAll_cons_of_free (fun _ _ _ _ => takes_identifier_iff), takesAll_nil]
  constructor
  · rintro ⟨_, rfl, s, _, rfl, hs, _, rfl, t, _, rfl, ht, n, _, rfl, hn, rfl, rfl⟩
    exact ⟨⟨"async".toList ++ s ++ ("class".toList ++ t), n, by simp,
      ⟨s, _, rfl, hs, ⟨t, rfl, ht⟩⟩, hn⟩, rfl⟩
  · rintro ⟨⟨_, n, rfl, ⟨s, _, rfl, hs, ⟨t, rfl, ht⟩⟩, hn⟩, rfl⟩
    exact ⟨s ++ ("class".toList ++ (t ++ n)), by simp, s, _, rfl, hs, t ++ n, rfl, t, n, rfl, ht, n,
      [], by simp, hn, rfl, rfl⟩

/-- Classes that are said to be asynchronous, for which there is no rule. -/
def asyncClasses : Kind where
  declaration := asyncClassDeclaration
  Head := AsyncClassHead
  initials := ['a']
  takes_iff := takes_asyncClassDeclaration_iff
  exists_initial := by
    rintro _ ⟨s, g, rfl, -, -⟩
    exact ⟨'a', "sync".toList ++ s ++ g, rfl, by simp⟩
  exportless := by
    rintro _ ⟨s, g, rfl, hs, hg⟩
    exact .append (.append (lacks_of_not_mem (by decide)) (Exportless.of_spaces hs.1))
      (classes.exportless g hg)
  initials_ne := List.forall_mem_singleton.2 (by decide)
  isPlain := by decide
  isSolid := by decide
  exhausts := exhausts_identifier.seqs (.literal "async") [blanks1, .literal "class", blanks1]

/-- The word for a function or a class, with what stands between it and the name. -/
def KindWord (g : Text) : Prop := (∃ f, g = "function".toList ++ f ∧ FunctionGap f) ∨ ClassHead g

theorem takes_kindWord_iff {b g a : Text} {k : Captures} :
    (alt none (.seq (.literal "function") functionGap) (.seq (.literal "class") blanks1)).Takes
      b g a k ↔ KindWord g ∧ k = [] := by
  simp only [takes_alt_iff, takes_seq_iff, literal, takes_word_iff, takes_functionGap_iff,
    takes_blanks1_iff, KindWord, ClassHead]
  constructor
  · rintro (⟨_, f, _, _, rfl, ⟨rfl, rfl⟩, ⟨hf, rfl⟩, rfl⟩ | ⟨_, s, _, _, rfl, ⟨rfl, rfl⟩, ⟨hs, rfl⟩, rfl⟩)
    · exact ⟨.inl ⟨f, rfl, hf⟩, rfl⟩
    · exact ⟨.inr ⟨s, rfl, hs⟩, rfl⟩
  · rintro ⟨⟨f, rfl, hf⟩ | ⟨s, rfl, hs⟩, rfl⟩
    · exact .inl ⟨_, f, [], [], rfl, ⟨rfl, rfl⟩, ⟨hf, rfl⟩, rfl⟩
    · exact .inr ⟨_, s, [], [], rfl, ⟨rfl, rfl⟩, ⟨hs, rfl⟩, rfl⟩

/-- What stands before the name of a declaration of any kind. -/
def AnyHead (h : Text) : Prop := ∃ u g, h = u ++ g ∧ AsyncWord u ∧ KindWord g

theorem anyHead_iff {h : Text} : AnyHead h ↔ FunctionHead h ∨ ClassHead h ∨ AsyncClassHead h := by
  constructor
  · rintro ⟨u, g, rfl, hu, ⟨f, rfl, hf⟩ | hg⟩
    · exact .inl ⟨u, f, by simp, hu, hf⟩
    · rcases hu with rfl | ⟨s, rfl, hs⟩
      · exact .inr (.inl hg)
      · exact .inr (.inr ⟨s, g, rfl, hs, hg⟩)
  · rintro (⟨u, f, rfl, hu, hf⟩ | hg | ⟨s, g, rfl, hs, hg⟩)
    · exact ⟨u, "function".toList ++ f, by simp, hu, .inl ⟨f, rfl, hf⟩⟩
    · exact ⟨[], h, rfl, .inl rfl, .inr hg⟩
    · exact ⟨"async".toList ++ s, g, rfl, .inr ⟨s, rfl, hs⟩, .inr hg⟩

/-- What the scan takes: words of a default export and the name, which it captures. -/
theorem takes_defaultDeclaration {b w r : Text} {k : Captures}
    (h : defaultDeclaration.Takes b w r k) :
    Anchor.nearest Unicode.isWord b = false ∧ ∃ g n, w = g ++ n ∧ ExportHead AnyHead g ∧
      Identifier n ∧ (Match.taken b w r k).group exportGroup = n := by
  simp only [defaultDeclaration, exportDefault, takes_seqs_iff, List.cons_append, List.nil_append,
    boundary, takesAll_look_cons, takesAll_literal_cons, takesAll_blanks1_cons, takesAll_group_cons,
    takesAll_cons_of_free (fun _ _ _ _ => takes_optionalAsync_iff),
    takesAll_cons_of_free (fun _ _ _ _ => takes_kindWord_iff), takesAll_nil,
    takes_identifier_iff] at h
  obtain ⟨hb, _, rfl, s, _, rfl, hs, _, rfl, t, _, rfl, ht, u, _, rfl, hu, g, _, rfl, hg, n, _, _,
    _, rfl, ⟨hn, rfl⟩, ⟨rfl, rfl⟩, rfl⟩ := h
  refine ⟨(holds_wordBoundary_iff (by decide)).1 hb, _, n, by simp,
    ⟨s, t, u ++ g, rfl, hs, ht, ⟨u, g, rfl, hu, hg⟩⟩, hn, Match.group_taken (by decide)⟩

theorem fits_defaultDeclaration {b a : Text} :
    defaultDeclaration.Fits b a ↔
      Anchor.nearest Unicode.isWord b = false ∧ Opens (ExportHead AnyHead) a := by
  constructor
  · rintro ⟨_, r, k, rfl, h⟩
    obtain ⟨hb, g, _, rfl, hg, ⟨x, v, rfl, hx, -⟩, -⟩ := takes_defaultDeclaration h
    exact ⟨hb, g, x, v ++ r, by simp, hg, hx⟩
  · rintro ⟨hb, _, x, r, rfl, ⟨s, t, _, rfl, hs, ht, ⟨u, g, rfl, hu, hg⟩⟩, hx⟩
    simp only [defaultDeclaration, exportDefault, fits_seqs_iff, List.cons_append, List.nil_append,
      boundary, fitsAll_look_cons, fitsAll_literal_cons, fitsAll_blanks1_cons]
    refine ⟨(holds_wordBoundary_iff (by decide)).2 hb, _, by simp, s, _, rfl, hs, _, rfl, t, _, rfl,
      ht, u, g ++ x :: r, [], rfl, takes_optionalAsync_iff.2 ⟨hu, rfl⟩, g, x :: r, [], rfl,
      takes_kindWord_iff.2 ⟨hg, rfl⟩, ?_⟩
    rw [fitsAll_singleton, fits_group_iff, fits_identifier_iff]
    exact ⟨x, r, rfl, hx⟩

theorem opens_exportHead_mono {P Q : Text → Prop} (h : ∀ g, P g → Q g) {a : Text}
    (ha : Opens (ExportHead P) a) : Opens (ExportHead Q) a := by
  obtain ⟨_, x, r, rfl, ⟨s, t, g, rfl, hs, ht, hg⟩, hx⟩ := ha
  exact ⟨_, x, r, rfl, ⟨s, t, g, rfl, hs, ht, h g hg⟩, hx⟩

/-- The scan finds default exports of three kinds; there are rules for two of them. -/
theorem fits_defaultDeclaration_iff {b a : Text} :
    defaultDeclaration.Fits b a ↔ functions.pattern.Fits b a ∨ classes.pattern.Fits b a ∨
      asyncClasses.pattern.Fits b a := by
  simp only [fits_defaultDeclaration, Kind.fits_pattern_iff, ← and_or_left]
  refine and_congr_right fun _ => ⟨?_, ?_⟩
  · rintro ⟨_, x, r, rfl, ⟨s, t, g, rfl, hs, ht, hg⟩, hx⟩
    rcases anyHead_iff.1 hg with hg | hg | hg
    · exact .inl ⟨_, x, r, rfl, ⟨s, t, g, rfl, hs, ht, hg⟩, hx⟩
    · exact .inr (.inl ⟨_, x, r, rfl, ⟨s, t, g, rfl, hs, ht, hg⟩, hx⟩)
    · exact .inr (.inr ⟨_, x, r, rfl, ⟨s, t, g, rfl, hs, ht, hg⟩, hx⟩)
  · rintro (h | h | h)
    · exact opens_exportHead_mono (fun g hg => anyHead_iff.2 (.inl hg)) h
    · exact opens_exportHead_mono (fun g hg => anyHead_iff.2 (.inr (.inl hg))) h
    · exact opens_exportHead_mono (fun g hg => anyHead_iff.2 (.inr (.inr hg))) h

theorem isPlain_defaultDeclaration : defaultDeclaration.isPlain = true := by decide

theorem exhausts_defaultDeclaration : defaultDeclaration.Exhausts identifierPart :=
  (exhausts_identifier.group exportGroup).seqs .boundary
    (exportDefault ++ [optionalAsync, .alt none (.seq (.literal "function") functionGap)
      (.seq (.literal "class") blanks1)])

/-! ### The words before a name are clear from the text -/

theorem FunctionGap.append_inj {f g u v : Text} {x y : Char} (hf : FunctionGap f)
    (hg : FunctionGap g) (hx : identifierStart.contains x = true)
    (hy : identifierStart.contains y = true) (h : f ++ x :: u = g ++ y :: v) : f = g := by
  have hstar : identifierStart.contains '*' = false := by decide
  rcases hf with ⟨s, t, rfl, hs, ht⟩ | hf <;> rcases hg with ⟨s', t', rfl, hs', ht'⟩ | hg
  · have hstars : s ++ '*' :: (t ++ x :: u) = s' ++ '*' :: (t' ++ y :: v) := by simpa using h
    obtain ⟨rfl, -, htail⟩ := hs.append_inj hs' (by decide) (by decide) hstars
    obtain ⟨rfl, -, -⟩ :=
      ht.append_inj ht' (isSpace_of_identifierStart hx) (isSpace_of_identifierStart hy) htail
    rfl
  · have hmixed : s ++ '*' :: (t ++ x :: u) = g ++ y :: v := by simpa using h
    obtain ⟨-, rfl, -⟩ := hs.append_inj hg.1 (by decide) (isSpace_of_identifierStart hy) hmixed
    rw [hstar] at hy
    cases hy
  · have hmixed : f ++ x :: u = s' ++ '*' :: (t' ++ y :: v) := by simpa using h
    obtain ⟨-, rfl, -⟩ := hf.1.append_inj hs' (isSpace_of_identifierStart hx) (by decide) hmixed
    rw [hstar] at hx
    cases hx
  · exact (hf.1.append_inj hg.1 (isSpace_of_identifierStart hx) (isSpace_of_identifierStart hy) h).1

theorem KindWord.append_inj {f g u v : Text} {x y : Char} (hf : KindWord f) (hg : KindWord g)
    (hx : identifierStart.contains x = true) (hy : identifierStart.contains y = true)
    (h : f ++ x :: u = g ++ y :: v) : f = g := by
  rcases hf with ⟨f, rfl, hf⟩ | ⟨s, rfl, hs⟩ <;> rcases hg with ⟨g, rfl, hg⟩ | ⟨t, rfl, ht⟩
  · rw [List.append_assoc, List.append_assoc] at h
    rw [hf.append_inj hg hx hy (List.append_cancel_left h)]
  · cases h
  · cases h
  · rw [List.append_assoc, List.append_assoc] at h
    rw [(hs.1.append_inj ht.1 (isSpace_of_identifierStart hx) (isSpace_of_identifierStart hy)
      (List.append_cancel_left h)).1]

theorem KindWord.exists_cons {g : Text} (h : KindWord g) :
    ∃ c g', g = c :: g' ∧ Unicode.isSpace c = false ∧ c ≠ 'a' := by
  rcases h with ⟨f, rfl, -⟩ | ⟨s, rfl, -⟩
  · exact ⟨'f', _, rfl, by decide, by decide⟩
  · exact ⟨'c', _, rfl, by decide, by decide⟩

/-- Where words of some kind are clear from the text, they still are if the word that makes a
function asynchronous may stand before them. -/
theorem asyncWord_append_inj {Word : Text → Prop}
    (hcons : ∀ g, Word g → ∃ c g', g = c :: g' ∧ Unicode.isSpace c = false ∧ c ≠ 'a')
    {g h u v : Text} (hinj : Word g → Word h → g ++ u = h ++ v → g = h) {a b : Text}
    (ha : AsyncWord a) (hb : AsyncWord b) (hg : Word g) (hh : Word h)
    (heq : a ++ (g ++ u) = b ++ (h ++ v)) : a ++ g = b ++ h := by
  obtain ⟨c, g', hc, hcspace, hca⟩ := hcons g hg
  obtain ⟨d, h', hd, hdspace, hda⟩ := hcons h hh
  rcases ha with rfl | ⟨s, rfl, hs⟩ <;> rcases hb with rfl | ⟨t, rfl, ht⟩
  · rw [hinj hg hh heq]
  · rw [hc] at heq
    exact absurd (List.cons.inj heq).1 hca
  · rw [hd] at heq
    exact absurd (List.cons.inj heq).1.symm hda
  · rw [List.append_assoc, List.append_assoc] at heq
    have htail := List.append_cancel_left heq
    obtain ⟨rfl, -⟩ : s = t ∧ _ := by
      rw [hc, hd] at htail
      exact hs.1.append_inj ht.1 hcspace hdspace htail
    rw [hinj hg hh (List.append_cancel_left htail)]

theorem AnyHead.append_inj {g h u v : Text} {x y : Char} (hg : AnyHead g) (hh : AnyHead h)
    (hx : identifierStart.contains x = true) (hy : identifierStart.contains y = true)
    (heq : g ++ x :: u = h ++ y :: v) : g = h := by
  obtain ⟨a, g, rfl, ha, hg⟩ := hg
  obtain ⟨b, h, rfl, hb, hh⟩ := hh
  exact asyncWord_append_inj (fun _ => KindWord.exists_cons)
    (fun hg hh => hg.append_inj hh hx hy) ha hb hg hh (by simpa using heq)

theorem AnyHead.exists_cons {g : Text} (h : AnyHead g) :
    ∃ c g', g = c :: g' ∧ Unicode.isSpace c = false := by
  obtain ⟨u, g, rfl, rfl | ⟨s, rfl, -⟩, hg⟩ := h
  · obtain ⟨c, g', rfl, hc, -⟩ := hg.exists_cons
    exact ⟨c, g', rfl, hc⟩
  · exact ⟨'a', _, rfl, by decide⟩

/-- Two readings of one default export agree in the declaration and where it begins. -/
theorem exportHead_inj {s s' t t' u v : Text} (hs : Spaces1 s) (hs' : Spaces1 s') (ht : Spaces1 t)
    (ht' : Spaces1 t') {c d : Char} (hc : Unicode.isSpace c = false) (hd : Unicode.isSpace d = false)
    (h : "export".toList ++ s ++ "default".toList ++ t ++ c :: u =
      "export".toList ++ s' ++ "default".toList ++ t' ++ d :: v) : c :: u = d :: v := by
  have hfirst : s ++ 'd' :: ("efault".toList ++ (t ++ c :: u)) =
      s' ++ 'd' :: ("efault".toList ++ (t' ++ d :: v)) := by simpa using h
  obtain ⟨-, -, hrest⟩ := hs.1.append_inj hs'.1 (by decide) (by decide) hfirst
  obtain ⟨-, rfl, rfl⟩ := ht.1.append_inj ht'.1 hc hd (List.append_cancel_left hrest)
  rfl

/-- Where a name is taken whole, it is clear from the text. -/
theorem whole_inj {P : Char → Bool} {m n u v : Text} (hm : ∀ c ∈ m, P c = true)
    (hn : ∀ c ∈ n, P c = true) (hu : Anchor.nearest P u = false) (hv : Anchor.nearest P v = false)
    (h : m ++ u = n ++ v) : m = n ∧ u = v := by
  rcases List.append_eq_append_iff.1 h with ⟨w, rfl, rfl⟩ | ⟨w, rfl, rfl⟩
  · cases w with
    | nil => exact ⟨by simp, rfl⟩
    | cons c w =>
        have hc : P c = false := hu
        rw [hn c (by simp)] at hc
        cases hc
  · cases w with
    | nil => exact ⟨by simp, rfl⟩
    | cons c w =>
        have hc : P c = false := hv
        rw [hm c (by simp)] at hc
        cases hc

/-! ### Exported declarations -/

/-- A declaration of the name that is exported. The name is not part of a longer one. -/
def exportedDeclaration (name : Text) : Pattern :=
  .seqs
    [.boundary, .literal "export", blanks1,
     .alt none (.seqs [optionalAsync, .literal "function", functionGap])
       (.seq (.alts [.literal "class", .literal "const", .literal "let", .literal "var"]) blanks1),
     .word name, .look (.wordBoundary identifierPart.contains)]

/-- The text holds an exported declaration of the name. -/
def DeclaresExport (name text : Text) : Prop := (exportedDeclaration name).isMatch text = true

instance (name text : Text) : Decidable (DeclaresExport name text) :=
  inferInstanceAs (Decidable (_ = true))

/-- The word for a class or a variable, with space behind it. -/
def BindingWord (g : Text) : Prop :=
  ∃ q s, g = q ++ s ∧ Spaces1 s ∧ q ∈ ["class".toList, "const".toList, "let".toList, "var".toList]

/-- What stands between the word `export` and the name in an exported declaration. -/
def NamedHead (h : Text) : Prop := FunctionHead h ∨ BindingWord h

theorem NamedHead.exists_takes {h : Text} (hh : NamedHead h) (b a : Text) : ∃ k,
    (alt none (.seqs [optionalAsync, .literal "function", functionGap])
      (.seq (.alts [.literal "class", .literal "const", .literal "let", .literal "var"]) blanks1)).Takes
      b h a k := by
  rcases hh with ⟨u, f, rfl, hu, hf⟩ | ⟨q, s, rfl, hs, hq⟩
  · refine ⟨[], .altLeft (takes_seqs_iff.2 ⟨u, "function".toList ++ f, [], [], by simp,
      takes_optionalAsync_iff.2 ⟨hu, rfl⟩, ⟨_, f, [], [], rfl, takes_word_iff.2 ⟨rfl, rfl⟩,
        ⟨f, [], [], [], by simp, takes_functionGap_iff.2 ⟨hf, rfl⟩, ⟨rfl, rfl⟩, rfl⟩, rfl⟩, rfl⟩)⟩
  · refine ⟨[] ++ [], .altRight (.seq ?_ (takes_blanks1_iff.2 ⟨hs, rfl⟩))⟩
    simp only [alts, takes_alt_iff, literal, takes_word_iff, and_true]
    simpa using hq

theorem isPlain_exportedDeclaration (name : Text) : (exportedDeclaration name).isPlain = true := by
  simp [exportedDeclaration, seqs, Pattern.isPlain, optionalAsync, functionGap, blanks, blanks1, many,
    many1, literal, alts, boundary, Pattern.optional]

theorem nearest_reverse_identifier {n : Text} (hn : Identifier n) (b : Text) :
    Anchor.nearest identifierPart.contains (n.reverse ++ b) = true := by
  have hmem := hn.forall_mem
  obtain ⟨x, v, rfl, -, -⟩ := hn
  obtain ⟨c, w, hc⟩ := List.exists_cons_of_ne_nil (List.reverse_ne_nil_iff.2 (List.cons_ne_nil x v))
  rw [hc]
  exact hmem c (List.mem_reverse.1 (hc ▸ List.mem_cons_self))

theorem declaresExport_of_eq {text u s h n v : Text}
    (htext : text = u ++ ("export".toList ++ (s ++ (h ++ (n ++ v)))))
    (hu : Anchor.nearest Unicode.isWord u.reverse = false) (hs : Spaces1 s) (hh : NamedHead h)
    (hn : Identifier n) (hv : Anchor.nearest identifierPart.contains v = false) :
    DeclaresExport n text := by
  rw [DeclaresExport, isMatch_iff (isPlain_exportedDeclaration n)]
  refine ⟨u, _, htext, ?_⟩
  obtain ⟨k, hk⟩ := hh.exists_takes (s.reverse ++ ("export".toList.reverse ++ u.reverse)) (n ++ v)
  simp only [exportedDeclaration, fits_seqs_iff, boundary, fitsAll_look_cons, fitsAll_literal_cons,
    fitsAll_blanks1_cons]
  refine ⟨(holds_wordBoundary_iff (by decide)).2 (by simpa using hu), _, rfl, s, _, rfl, hs, h, n ++ v,
    k, rfl, by simpa using hk, ?_⟩
  simp only [fitsAll_word_cons, fitsAll_look_cons, fitsAll_nil, and_true]
  refine ⟨v, rfl, ?_⟩
  simp [Anchor.holds, nearest_reverse_identifier hn, hv]

/-! ### A text with default exports of one kind -/

/-- Behind a name that was taken whole, the pass leaves the character as it is. -/
theorem nearest_spliceFrom {K : Kind} {b a : Text} {ms : List Match} (hscan : Scans K.pattern b a ms)
    (ha : Anchor.nearest identifierPart.contains a = false) :
    Anchor.nearest identifierPart.contains (spliceFrom exportNamed (.between b a) ms) = false := by
  cases a with
  | nil =>
      rw [hscan.eq_nil]
      rfl
  | cons c a =>
      have hno : ¬ K.pattern.Fits b (c :: a) := by
        intro hfits
        obtain ⟨r, hr⟩ := Kind.isPrefix_of_opens (Kind.fits_pattern_iff.1 hfits).2
        obtain ⟨rfl, -⟩ := List.cons.inj hr
        have he : identifierPart.contains 'e' = false := ha
        exact absurd he (by decide)
      have hs := hscan.of_not_fits hno
      rw [spliceFrom_skip fun m hm => hs.le_start m hm]
      exact ha

/-- The scan and the rule for a kind read the same name at the same place. -/
theorem exportNamed_of_takes {K : Kind} (hany : ∀ h, K.Head h → AnyHead h) {b w w' r r' : Text}
    {k k' : Captures} (hscan : defaultDeclaration.Takes b w r k) (hrule : K.pattern.Takes b w' r' k')
    (hr : Anchor.nearest identifierPart.contains r = false)
    (hr' : Anchor.nearest identifierPart.contains r' = false) (heq : w ++ r = w' ++ r') :
    ∃ h, K.Head h ∧ Identifier ((Match.taken b w r k).group exportGroup) ∧
      exportNamed (.taken b w' r' k') =
        "export ".toList ++ (h ++ (Match.taken b w r k).group exportGroup) := by
  obtain ⟨-, _, n, rfl, ⟨s, t, g, rfl, hs, ht, hg⟩, hn, hname⟩ := takes_defaultDeclaration hscan
  obtain ⟨s', t', _, rfl, hs', ht', ⟨h, n', rfl, hh, hn'⟩, hnamed⟩ := Kind.takes_pattern hrule
  rw [hname, hnamed]
  have hsame : g ++ (n ++ r) = h ++ (n' ++ r') := by
    obtain ⟨c, g, rfl, hc⟩ := hg.exists_cons
    obtain ⟨d, h, rfl, hd⟩ := (hany _ hh).exists_cons
    exact exportHead_inj hs hs' ht ht' hc hd (by simpa using heq)
  obtain rfl : g = h := by
    obtain ⟨x, v, rfl, hx, -⟩ := hn
    obtain ⟨x', v', rfl, hx', -⟩ := hn'
    exact hg.append_inj (hany _ hh) hx hx' hsame
  obtain ⟨rfl, -⟩ := whole_inj hn.forall_mem hn'.forall_mem hr hr' (List.append_cancel_left hsame)
  exact ⟨g, hh, hn, rfl⟩

/-- If all default exports of a text are of one kind, the pass for that kind exports the
name that is found. -/
theorem declaresExport_replaceAll {K : Kind} (hany : ∀ h, K.Head h → AnyHead h)
    (hnamed : ∀ h, K.Head h → NamedHead h) {text : Text}
    (honly : ∀ b a, text = b.reverse ++ a → defaultDeclaration.Fits b a → K.pattern.Fits b a)
    {m : Match} (hm : defaultDeclaration.find? text = some m) :
    DeclaresExport (m.group exportGroup) (K.pattern.replaceAll exportNamed text) := by
  obtain ⟨u, v, rfl, hmatch, hno⟩ := exists_of_findFrom? isPlain_defaultDeclaration hm
  obtain ⟨w, r, k, rfl, htakes, rfl⟩ := matchAt?_eq_some isPlain_defaultDeclaration hmatch
  have hwhole := exhausts_defaultDeclaration.nearest_stop hmatch
  -- the pass for the kind finds its first match at the same place
  have hfits := honly _ _ (by simp) htakes.fits
  have hscan := scans_matchesIn K.isPlain_pattern K.isSolid_pattern (u ++ (w ++ r))
  have hnot : ∀ x y, u = x ++ y → y ≠ [] → ¬ K.pattern.Fits (x.reverse ++ []) (y ++ (w ++ r)) := by
    intro x y hxy hy hK
    obtain ⟨hx, hopens⟩ := Kind.fits_pattern_iff.1 hK
    exact hno x y hxy hy (fits_defaultDeclaration.2 ⟨hx, opens_exportHead_mono hany hopens⟩)
  obtain ⟨w', r', k', ms, heq, htakes', hmatch', hms, hscan'⟩ := (hscan.of_append hnot).of_fits hfits
  have hwhole' := K.exhausts_pattern.nearest_stop hmatch'
  obtain ⟨h, hh, hn, hexport⟩ := exportNamed_of_takes hany htakes htakes' hwhole hwhole' heq
  refine declaresExport_of_eq ?_ (by simpa using (Kind.fits_pattern_iff.1 hfits).1)
    (s := [' ']) ⟨spaces_cons.2 ⟨by decide, spaces_nil⟩, by simp⟩ (hnamed h hh) hn
    (nearest_spliceFrom hscan' hwhole')
  rw [replaceAll_eq, hscan.spliceFrom_append hnot, hms, heq, spliceFrom_found, hexport]
  simp

/-! ### Edits before and behind a place -/

theorem applyEdits_of_le {offset : Nat} {e : Edit} (h : offset ≤ e.offset) (text : Text)
    (edits : List Edit) :
    applyEdits offset text (e :: edits) = text.take (e.offset - offset) ++ e.inserted ++
      applyEdits (e.offset + e.removed) (text.drop (e.offset - offset + e.removed)) edits := by
  rw [applyEdits, if_neg (Nat.not_lt.2 h)]

theorem applyEdits_of_lt {offset : Nat} {e : Edit} (h : e.offset < offset) (text : Text)
    (edits : List Edit) : applyEdits offset text (e :: edits) = applyEdits offset text edits := by
  rw [applyEdits, if_pos h]

/-- Edits before a place and edits behind it are carried out apart. -/
theorem applyEdits_append {offset : Nat} {u v : Text} {es fs : List Edit}
    (hes : ∀ e ∈ es, e.offset + e.removed ≤ offset + u.length)
    (hfs : ∀ f ∈ fs, offset + u.length ≤ f.offset) :
    applyEdits offset (u ++ v) (es ++ fs) =
      applyEdits offset u es ++ applyEdits (offset + u.length) v fs := by
  induction es generalizing offset u with
  | nil =>
      cases fs with
      | nil => rfl
      | cons f fs =>
          have hf := hfs f List.mem_cons_self
          have hgap : f.offset - offset = u.length + (f.offset - (offset + u.length)) := by omega
          rw [List.nil_append, applyEdits_of_le (by omega), applyEdits_of_le hf, hgap,
            List.take_length_add_append, Nat.add_assoc, List.drop_length_add_append]
          simp only [applyEdits, List.append_assoc]
  | cons e es ih =>
      obtain ⟨he, hes⟩ := List.forall_mem_cons.1 hes
      rw [List.cons_append]
      rcases Nat.lt_or_ge e.offset offset with hlt | hle
      · rw [applyEdits_of_lt hlt, applyEdits_of_lt hlt, ih hes hfs]
      · have hlength : e.offset + e.removed + (u.drop (e.offset - offset + e.removed)).length =
            offset + u.length := by
          rw [List.length_drop]
          omega
        have htail := ih (u := u.drop (e.offset - offset + e.removed)) (by rwa [hlength])
          (by rwa [hlength])
        rw [hlength] at htail
        rw [applyEdits_of_le hle, applyEdits_of_le hle, List.take_append_of_le_length (by omega),
          List.drop_append_of_le_length (by omega), htail]
        simp only [List.append_assoc]

/-- A word put in at a place stands between what becomes of the text before it and what
becomes of the text behind it, of which the first part stays. -/
theorem applyEdits_around {u w v i : Text} {ds fs : List Edit}
    (hds : ∀ d ∈ ds, d.offset + d.removed ≤ u.length)
    (hfs : ∀ f ∈ fs, u.length + w.length ≤ f.offset) :
    applyEdits 0 (u ++ (w ++ v)) (ds ++ [⟨u.length, 0, i⟩] ++ fs) =
      applyEdits 0 u ds ++ (i ++ (w ++ applyEdits (u.length + w.length) v fs)) := by
  have hplace : applyEdits 0 (u ++ (w ++ v)) (ds ++ ([⟨u.length, 0, i⟩] ++ fs)) =
      applyEdits 0 u ds ++ applyEdits (0 + u.length) (w ++ v) ([⟨u.length, 0, i⟩] ++ fs) := by
    refine applyEdits_append (by simpa using hds) fun f hf => ?_
    rcases List.mem_append.1 hf with hf | hf
    · simp [List.mem_singleton.1 hf]
    · have := hfs f hf
      omega
  have hstays : applyEdits u.length (w ++ v) ([] ++ fs) =
      applyEdits u.length w [] ++ applyEdits (u.length + w.length) v fs :=
    applyEdits_append (by simp) hfs
  rw [List.nil_append] at hstays
  rw [List.append_assoc, hplace, Nat.zero_add, List.singleton_append,
    applyEdits_of_le (e := ⟨u.length, 0, i⟩) (Nat.le_refl _)]
  simp only [Nat.sub_self, List.take_zero, List.drop_zero, Nat.add_zero, List.nil_append]
  rw [hstays, applyEdits]

/-- The text does not end in a word character. -/
def Clear (y : Text) : Prop := Anchor.nearest Unicode.isWord y.reverse = false

theorem clear_append {x y : Text} (hx : Clear x) (hy : Clear y) : Clear (x ++ y) := by
  unfold Clear at *
  rw [List.reverse_append]
  cases h : y.reverse with
  | nil => exact hx
  | cons c z =>
      rw [h] at hy
      exact hy

theorem clear_drop {x : Text} (hx : Clear x) (k : Nat) : Clear (x.drop k) := by
  unfold Clear at *
  rw [← List.take_append_drop k x, List.reverse_append] at hx
  cases h : (x.drop k).reverse with
  | nil => rfl
  | cons c z =>
      rw [h] at hx
      exact hx

/-- Edits at places without a word character before them leave none at the end. -/
theorem clear_applyEdits {offset : Nat} {text : Text} {edits : List Edit} (htext : Clear text)
    (hins : ∀ e ∈ edits, Clear e.inserted)
    (hplace : ∀ e ∈ edits, offset ≤ e.offset → Clear (text.take (e.offset - offset))) :
    Clear (applyEdits offset text edits) := by
  induction edits generalizing offset text with
  | nil => exact htext
  | cons e edits ih =>
      obtain ⟨hins, hinss⟩ := List.forall_mem_cons.1 hins
      obtain ⟨hplace, hplaces⟩ := List.forall_mem_cons.1 hplace
      rcases Nat.lt_or_ge e.offset offset with hlt | hle
      · rw [applyEdits_of_lt hlt]
        exact ih htext hinss hplaces
      · rw [applyEdits_of_le hle]
        refine clear_append (clear_append (hplace hle) hins) (ih (clear_drop htext _) hinss ?_)
        intro f hf hf'
        have hdrop := clear_drop (hplaces f hf (by omega)) (e.offset - offset + e.removed)
        rw [List.drop_take] at hdrop
        convert hdrop using 2
        omega

theorem nearest_applyEdits {P : Char → Bool} {offset : Nat} {v : Text} {edits : List Edit}
    (hedits : ∀ e ∈ edits, offset < e.offset ∧ e.offset ≤ offset + v.length)
    (hv : Anchor.nearest P v = false) : Anchor.nearest P (applyEdits offset v edits) = false := by
  cases edits with
  | nil => exact hv
  | cons e edits =>
      obtain ⟨hlt, hle⟩ := hedits e List.mem_cons_self
      cases v with
      | nil =>
          simp at hle
          omega
      | cons c v =>
          obtain ⟨gap, hgap⟩ : ∃ gap, e.offset - offset = gap + 1 := ⟨e.offset - offset - 1, by omega⟩
          rw [applyEdits_of_le (Nat.le_of_lt hlt), hgap]
          exact hv

/-! ### Moved lines and declarations begin a line -/

theorem clear_of_lineStart {b a : Text} (h : Anchor.lineStart.holds (.between b a) = true) :
    Anchor.nearest Unicode.isWord b = false := by
  cases b with
  | nil => rfl
  | cons c b =>
      have hc : c = '\n' := by simpa [Anchor.holds, Anchor.nearest] using h
      rw [hc]
      show Unicode.isWord '\n' = false
      decide

theorem isPlain_declarationOf (name : Text) : (declarationOf name).isPlain = true := by
  simp [declarationOf, seqs, Pattern.isPlain, lineStart, optionalAsync, functionGap, blanks, blanks1,
    many, many1, literal, alts, boundary, Pattern.optional]

theorem clear_declarationStart? {text name : Text} {start : Cursor}
    (h : declarationStart? text name = some start) :
    Clear (text.take start.offset) ∧ start.offset ≤ text.length := by
  obtain ⟨m, hm, rfl⟩ := Option.map_eq_some_iff.1 h
  obtain ⟨u, v, rfl, hmatch, -⟩ := exists_of_findFrom? (isPlain_declarationOf name) hm
  obtain ⟨w, r, k, rfl, htakes, rfl⟩ := matchAt?_eq_some (isPlain_declarationOf name) hmatch
  have hline : Anchor.lineStart.holds (.between (u.reverse ++ []) (w ++ r)) = true := by
    simp only [declarationOf, takes_seqs_iff, lineStart, takesAll_look_cons] at htakes
    exact htakes.1
  have hoffset : (Match.taken (u.reverse ++ []) w r k).start.offset = u.length := by simp
  rw [hoffset, List.take_left]
  exact ⟨by simpa [Clear] using clear_of_lineStart hline, by simp⟩

theorem clear_of_mem_matchesIn {text : Text} {m : Match} (h : m ∈ trailingDefault.matchesIn text) :
    Clear (text.take m.start.offset) := by
  obtain ⟨b, w, r, k, rfl, htakes, htext⟩ :=
    (scans_matchesIn isPlain_trailingDefault isSolid_trailingDefault text).exists_taken m h
  obtain ⟨s, t, n, e, -, -, -, -, hline, -⟩ := takes_trailingDefault htakes
  have htake : text.take (Match.taken b w r k).start.offset = b.reverse := by
    rw [show text = b.reverse ++ (w ++ r) by simpa using htext]
    simp
  rw [htake, Clear, List.reverse_reverse]
  exact clear_of_lineStart hline

/-- Every edit is at the start of a line; one that takes nothing away puts in the word
`export`. -/
theorem clear_of_mem_trailingEdits {text : Text} {e : Edit} (h : e ∈ trailingEdits text) :
    Clear (text.take e.offset) ∧ e.offset ≤ text.length ∧ Clear e.inserted ∧
      (e.removed = 0 → e.inserted = "export ".toList) := by
  obtain ⟨m, hm, he⟩ := List.mem_flatMap.1 h
  have hlength := length_of_mem_matchesIn hm
  cases hstart : declarationStart? text (m.group exportGroup) with
  | none => simp [hstart] at he
  | some start =>
      rw [hstart] at he
      obtain ⟨hclear, hle⟩ := clear_declarationStart? hstart
      rcases List.mem_cons.1 he with rfl | he
      · have hword : Clear "export ".toList := by
          show Unicode.isWord ' ' = false
          decide
        exact ⟨hclear, hle, hword, fun _ => rfl⟩
      · obtain rfl := List.mem_singleton.1 he
        refine ⟨clear_of_mem_matchesIn hm, ?_, rfl, fun hzero => ?_⟩
        · show m.start.offset ≤ text.length
          omega
        · replace hzero : m.stop.offset - m.start.offset = 0 := hzero
          omega

theorem isIdentifier_of_mem_matchesIn {text : Text} {m : Match}
    (h : m ∈ trailingDefault.matchesIn text) : Identifier (m.group exportGroup) := by
  obtain ⟨b, w, r, k, rfl, htakes, -⟩ :=
    (scans_matchesIn isPlain_trailingDefault isSolid_trailingDefault text).exists_taken m h
  obtain ⟨s, t, n, e, -, -, -, hn, -, hgroup⟩ := takes_trailingDefault htakes
  rwa [hgroup]

/-! ### The declaration of a moved line -/

/-- The declaration found for the name is one of the name alone, and no edit touches it. -/
def Untouched (text name : Text) : Prop :=
  ∃ u h v, text = u ++ (h ++ (name ++ v)) ∧
    (declarationStart? text name).map (·.offset) = some u.length ∧ NamedHead h ∧
    Anchor.nearest identifierPart.contains v = false ∧
    ∀ e ∈ trailingEdits text,
      e.offset + e.removed ≤ u.length ∨ u.length + (h ++ name).length < e.offset

/-- Edits in the order of their offsets fall into those up to a place and those behind it. -/
theorem exists_split_of_pairwise {edits : List Edit}
    (h : edits.Pairwise fun d e => d.offset ≤ e.offset) (p : Nat) :
    ∃ es fs, edits = es ++ fs ∧ (∀ e ∈ es, e.offset ≤ p) ∧ ∀ f ∈ fs, p < f.offset := by
  induction edits with
  | nil => exact ⟨[], [], rfl, by simp, by simp⟩
  | cons d edits ih =>
      obtain ⟨hd, hrest⟩ := List.pairwise_cons.1 h
      rcases Nat.lt_or_ge p d.offset with hlt | hle
      · refine ⟨[], d :: edits, rfl, by simp, List.forall_mem_cons.2 ⟨hlt, fun f hf => ?_⟩⟩
        exact Nat.lt_of_lt_of_le hlt (hd f hf)
      · obtain ⟨es, fs, rfl, hes, hfs⟩ := ih hrest
        exact ⟨d :: es, fs, rfl, List.forall_mem_cons.2 ⟨hle, hes⟩, hfs⟩

/-- The last edit up to the place of a declaration puts in the word `export`. -/
theorem exists_last_edit {text : Text} {p : Nat} {es : List Edit}
    (hmem : ∀ e ∈ es, e ∈ trailingEdits text)
    (hsorted : es.Pairwise fun d e => d.offset ≤ e.offset)
    (hes : ∀ e ∈ es, e.offset + e.removed ≤ p) (hinsert : ⟨p, 0, "export ".toList⟩ ∈ es) :
    ∃ ds, es = ds ++ [⟨p, 0, "export ".toList⟩] := by
  rcases List.eq_nil_or_concat es with rfl | ⟨ds, last, hconcat⟩
  · cases hinsert
  · rw [List.concat_eq_append] at hconcat
    subst hconcat
    have hlast : last ∈ ds ++ [last] := by simp
    have hle : p ≤ last.offset := by
      rcases List.mem_append.1 hinsert with hds | heq
      · exact (List.pairwise_append.1 hsorted).2.2 _ hds last (by simp)
      · exact Nat.le_of_eq (congrArg Edit.offset (List.mem_singleton.1 heq))
    have hends := hes last hlast
    have hinserted := (clear_of_mem_trailingEdits (hmem last hlast)).2.2.2 (by omega)
    refine ⟨ds, ?_⟩
    obtain ⟨o, r, i⟩ := last
    simp only at hle hends hinserted
    obtain rfl : o = p := by omega
    obtain rfl : r = 0 := by omega
    rw [hinserted]

/-- The edits in order: up to the place of the declaration, the one that exports it, and
those behind it. -/
theorem exists_edits_around {text : Text} {p q : Nat} (hpq : p ≤ q)
    (hinsert : ⟨p, 0, "export ".toList⟩ ∈ trailingEdits text)
    (hedits : ∀ e ∈ trailingEdits text, e.offset + e.removed ≤ p ∨ q < e.offset) :
    ∃ ds fs, sortEdits (trailingEdits text) = ds ++ [⟨p, 0, "export ".toList⟩] ++ fs ∧
      (∀ d ∈ ds, d ∈ trailingEdits text ∧ d.offset + d.removed ≤ p) ∧
      ∀ f ∈ fs, f ∈ trailingEdits text ∧ q < f.offset := by
  have hsorted := pairwise_sortEdits (trailingEdits text)
  obtain ⟨es, fs, hsplit, hes, hfs⟩ := exists_split_of_pairwise hsorted p
  have hmem : ∀ e, e ∈ es ++ fs ↔ e ∈ trailingEdits text := fun e => by
    rw [← hsplit]
    exact (List.mergeSort_perm _ _).mem_iff
  have hbefore : ∀ e ∈ es, e ∈ trailingEdits text ∧ e.offset + e.removed ≤ p := fun e he => by
    have hin := (hmem e).1 (List.mem_append_left fs he)
    have := hes e he
    exact ⟨hin, (hedits e hin).resolve_right (by omega)⟩
  have hbehind : ∀ f ∈ fs, f ∈ trailingEdits text ∧ q < f.offset := fun f hf => by
    have hin := (hmem f).1 (List.mem_append_right es hf)
    have := hfs f hf
    exact ⟨hin, (hedits f hin).resolve_left (by omega)⟩
  have hin : ⟨p, 0, "export ".toList⟩ ∈ es :=
    (List.mem_append.1 ((hmem _).2 hinsert)).resolve_right fun hf => Nat.lt_irrefl p (hfs _ hf)
  rw [hsplit] at hsorted
  obtain ⟨ds, rfl⟩ := exists_last_edit (fun e he => (hbefore e he).1)
    (List.pairwise_append.1 hsorted).1 (fun e he => (hbefore e he).2) hin
  exact ⟨ds, fs, hsplit, fun d hd => hbefore d (List.mem_append_left _ hd), hbehind⟩

/-- Moving lines exports the name of one of them if its declaration is untouched. -/
theorem declaresExport_moveTrailing {text : Text} {m : Match}
    (hm : m ∈ trailingDefault.matchesIn text) (h : Untouched text (m.group exportGroup)) :
    DeclaresExport (m.group exportGroup) (moveTrailing text) := by
  obtain ⟨u, g, v, htext, hstart, hg, hv, hedits⟩ := h
  obtain ⟨start, hstart, hoffset⟩ := Option.map_eq_some_iff.1 hstart
  have hinsert : ⟨u.length, 0, "export ".toList⟩ ∈ trailingEdits text := by
    rw [trailingEdits_eq]
    refine List.mem_flatMap.2 ⟨m, hm, ?_⟩
    rw [editsFor, hstart, ← hoffset]
    exact List.mem_cons_self
  obtain ⟨ds, fs, hsplit, hds, hfs⟩ := exists_edits_around (Nat.le_add_right _ _) hinsert hedits
  have htake : ∀ k ≤ u.length, text.take k = u.take k := fun k hk => by
    rw [htext, List.take_append_of_le_length hk]
  have hmove : moveTrailing text = applyEdits 0 u ds ++ ("export".toList ++ ([' '] ++ (g ++
      (m.group exportGroup ++
        applyEdits (u.length + (g ++ m.group exportGroup).length) v fs)))) := by
    rw [moveTrailing, hsplit, htext, ← List.append_assoc g,
      applyEdits_around (fun d hd => (hds d hd).2) fun f hf => Nat.le_of_lt (hfs f hf).2]
    simp
  refine declaresExport_of_eq hmove ?_ ⟨spaces_cons.2 ⟨by decide, spaces_nil⟩, by simp⟩ hg
    (isIdentifier_of_mem_matchesIn hm) (nearest_applyEdits (fun f hf => ⟨(hfs f hf).2, ?_⟩) hv)
  · have hu : Clear (u.take u.length) := by
      rw [← htake _ (Nat.le_refl _)]
      exact (clear_of_mem_trailingEdits hinsert).1
    refine clear_applyEdits (by rwa [List.take_length] at hu) ?_ ?_
    · exact fun d hd => (clear_of_mem_trailingEdits (hds d hd).1).2.2.1
    · intro d hd _
      have hle := (hds d hd).2
      rw [Nat.sub_zero, ← htake _ (by omega)]
      exact (clear_of_mem_trailingEdits (hds d hd).1).1
  · have hle := (clear_of_mem_trailingEdits (hfs f hf).1).2.1
    rw [htext] at hle
    simp only [List.length_append] at hle ⊢
    omega

end CodeMigration.NamedExports
