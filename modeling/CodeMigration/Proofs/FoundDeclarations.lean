import CodeMigration.Proofs.ExportedNames

/-!
# CodeMigration.Proofs.FoundDeclarations

Which declaration the search for a name finds. The name of a declaration is all that stands
between its words and the next character that cannot go on in a name (`DeclaresAt`); the search
asks for less and for more than that. Behind the name it wants the end or the start of a word, and
`$`, though it can stand in a name, belongs to no word. So a name is found in front of a `$` that
goes on with it, and a name that ends in `$` is found only where it goes on. And the word `async`
is read in front of any declaration, not only of a function.

`readAt_iff` says what the search reads at a place, and `findsDeclared_iff` when
it finds the first line that declares the name.
-/

namespace CodeMigration.NamedExports

open Lexeme Pattern

/-! ### Lines that declare a name -/

/-- A line begins at the offset, with some words of a declaration, the name and what follows. -/
def LineAt (Head : Text → Prop) (text name : Text) (offset : Nat) (rest : Text) : Prop :=
  ∃ u h, text = u ++ (h ++ (name ++ rest)) ∧ u.length = offset ∧ Head h ∧
    Anchor.lineStart.holds (.between u.reverse (h ++ (name ++ rest))) = true

/-- A line begins at the offset that declares the name and not a longer one. -/
def DeclaresAt (text name : Text) (offset : Nat) : Prop :=
  ∃ rest, LineAt NamedHead text name offset rest ∧
    Anchor.nearest identifierPart.contains rest = false

/-- The search finds the first line that declares the name, and a line that exports the name as
the default is moved to a declaration of the name or not at all. -/
structure FindsDeclared (text name : Text) : Prop where
  isSome_iff : (declarationStart? text name).isSome = true ↔ ∃ offset, DeclaresAt text name offset
  first : ∀ start, declarationStart? text name = some start →
    DeclaresAt text name start.offset ∧ ∀ offset < start.offset, ¬ DeclaresAt text name offset
  moved : ∀ m ∈ trailingDefault.matchesIn text, m.group exportGroup = name →
    editsFor text m = [] ∨ ∃ offset, DeclaresAt text name offset ∧
      editsFor text m = [⟨offset, 0, "export ".toList⟩,
        ⟨m.start.offset, m.stop.offset - m.start.offset, []⟩]

/-! ### What the search reads -/

/-- The word for a function, a class or a variable, with what stands between it and the name. -/
def DeclarationWord (g : Text) : Prop :=
  (∃ f, g = "function".toList ++ f ∧ FunctionGap f) ∨ BindingWord g

/-- What the search reads before a name. -/
def SearchedHead (h : Text) : Prop := ∃ u g, h = u ++ g ∧ AsyncWord u ∧ DeclarationWord g

/-- A class or a variable that is said to be asynchronous, up to its name. -/
def AsyncBinding (h : Text) : Prop :=
  ∃ s g, h = "async".toList ++ s ++ g ∧ Spaces1 s ∧ BindingWord g

theorem searchedHead_iff {h : Text} : SearchedHead h ↔ NamedHead h ∨ AsyncBinding h := by
  constructor
  · rintro ⟨u, g, rfl, hu, ⟨f, rfl, hf⟩ | hg⟩
    · exact .inl (.inl ⟨u, f, by simp, hu, hf⟩)
    · rcases hu with rfl | ⟨s, rfl, hs⟩
      · exact .inl (.inr hg)
      · exact .inr ⟨s, g, rfl, hs, hg⟩
  · rintro ((⟨u, f, rfl, hu, hf⟩ | hg) | ⟨s, g, rfl, hs, hg⟩)
    · exact ⟨u, "function".toList ++ f, by simp, hu, .inl ⟨f, rfl, hf⟩⟩
    · exact ⟨[], h, rfl, .inl rfl, .inr hg⟩
    · exact ⟨"async".toList ++ s, g, rfl, .inr ⟨s, rfl, hs⟩, .inr hg⟩

theorem takes_declarationWord_iff {b g a : Text} {k : Captures} :
    (alt none (.seq (.literal "function") functionGap)
      (.seq (.alts [.literal "class", .literal "const", .literal "let", .literal "var"])
        blanks1)).Takes b g a k ↔ DeclarationWord g ∧ k = [] := by
  simp only [takes_alt_iff, takes_seq_iff, alts, literal, takes_word_iff, takes_functionGap_iff,
    takes_blanks1_iff, DeclarationWord, BindingWord, ← or_and_right]
  constructor
  · rintro (⟨_, f, _, _, rfl, ⟨rfl, rfl⟩, ⟨hf, rfl⟩, rfl⟩ | ⟨q, s, _, _, rfl, ⟨hq, rfl⟩, ⟨hs, rfl⟩, rfl⟩)
    · exact ⟨.inl ⟨f, rfl, hf⟩, rfl⟩
    · exact ⟨.inr ⟨q, s, rfl, hs, by simpa using hq⟩, rfl⟩
  · rintro ⟨⟨f, rfl, hf⟩ | ⟨q, s, rfl, hs, hq⟩, rfl⟩
    · exact .inl ⟨_, f, [], [], rfl, ⟨rfl, rfl⟩, ⟨hf, rfl⟩, rfl⟩
    · exact .inr ⟨q, s, [], [], rfl, ⟨by simpa using hq, rfl⟩, ⟨hs, rfl⟩, rfl⟩

theorem fits_declarationOf_iff {name b a : Text} :
    (declarationOf name).Fits b a ↔ Anchor.lineStart.holds (.between b a) = true ∧
      ∃ h rest, a = h ++ (name ++ rest) ∧ SearchedHead h ∧
        (Anchor.wordBoundary Unicode.isWord).holds
          (.between (name.reverse ++ (h.reverse ++ b)) rest) = true := by
  simp only [declarationOf, fits_seqs_iff, lineStart, boundary, fitsAll_look_cons,
    fitsAll_cons_of_free (fun _ _ _ _ => takes_optionalAsync_iff),
    fitsAll_cons_of_free (fun _ _ _ _ => takes_declarationWord_iff), fitsAll_word_cons, fitsAll_nil,
    and_true]
  refine and_congr_right fun _ => ⟨?_, ?_⟩
  · rintro ⟨u, _, rfl, hu, g, _, rfl, hg, rest, rfl, hrest⟩
    exact ⟨u ++ g, rest, by simp, ⟨u, g, rfl, hu, hg⟩, by simpa using hrest⟩
  · rintro ⟨_, rest, rfl, ⟨u, g, rfl, hu, hg⟩, hrest⟩
    exact ⟨u, _, by simp, hu, g, _, rfl, hg, rest, rfl, by simpa using hrest⟩

/-- The search reads a declaration of the name at the offset. -/
def ReadAt (text name : Text) (offset : Nat) : Prop :=
  ∃ u a, text = u ++ a ∧ u.length = offset ∧ (declarationOf name).Fits u.reverse a

theorem isSome_declarationStart?_iff {text name : Text} :
    (declarationStart? text name).isSome = true ↔ ∃ offset, ReadAt text name offset := by
  rw [declarationStart?, Option.isSome_map]
  refine (isMatch_iff (isPlain_declarationOf name) text).trans ⟨?_, ?_⟩
  · rintro ⟨u, a, rfl, hfits⟩
    exact ⟨_, u, a, rfl, rfl, by simpa using hfits⟩
  · rintro ⟨_, u, a, rfl, -, hfits⟩
    exact ⟨u, a, rfl, by simpa using hfits⟩

/-- The search stops at the first place where it reads a declaration. -/
theorem readAt_of_declarationStart? {text name : Text} {start : Cursor}
    (h : declarationStart? text name = some start) :
    ReadAt text name start.offset ∧ ∀ offset < start.offset, ¬ ReadAt text name offset := by
  obtain ⟨m, hm, rfl⟩ := Option.map_eq_some_iff.1 h
  obtain ⟨u, v, rfl, hmatch, hno⟩ := exists_of_findFrom? (isPlain_declarationOf name) hm
  obtain ⟨w, r, k, rfl, htakes, rfl⟩ := matchAt?_eq_some (isPlain_declarationOf name) hmatch
  have hoffset : (Match.taken (u.reverse ++ []) w r k).start.offset = u.length := by simp
  rw [hoffset]
  refine ⟨⟨u, w ++ r, rfl, rfl, by simpa using htakes.fits⟩, ?_⟩
  rintro _ hlt ⟨x, a, htext, rfl, hfits⟩
  -- The place is inside the part that the search has passed over.
  obtain ⟨y, rfl, rfl⟩ : ∃ y, u = x ++ y ∧ a = y ++ (w ++ r) := by
    rcases List.append_eq_append_iff.1 htext with ⟨y, rfl, -⟩ | ⟨y, hu, ha⟩
    · rw [List.length_append] at hlt
      omega
    · exact ⟨y, hu, ha⟩
  refine hno x y rfl ?_ (by simpa using hfits)
  rintro rfl
  simp at hlt

/-! ### Words before a name are clear from the text -/

theorem BindingWord.append_inj {f g u v : Text} {x y : Char} (hf : BindingWord f)
    (hg : BindingWord g) (hx : Unicode.isSpace x = false) (hy : Unicode.isSpace y = false)
    (h : f ++ x :: u = g ++ y :: v) : f = g := by
  obtain ⟨q, s, rfl, hs, hq⟩ := hf
  obtain ⟨r, t, rfl, ht, hr⟩ := hg
  have hall : ∀ q ∈ ["class".toList, "const".toList, "let".toList, "var".toList],
      q.all (fun c => !Unicode.isSpace c) = true := by decide
  have hletters : ∀ {q : Text}, q ∈ ["class".toList, "const".toList, "let".toList, "var".toList] →
      ∀ c ∈ q, ¬ Unicode.isSpace c = true := fun hq c hc => by
    simpa using List.all_eq_true.1 (hall _ hq) c hc
  obtain ⟨b, s, rfl⟩ := List.exists_cons_of_ne_nil hs.2
  obtain ⟨c, t, rfl⟩ := List.exists_cons_of_ne_nil ht.2
  -- The word goes up to the first space, and the space up to the name.
  have hwords : q ++ b :: (s ++ x :: u) = r ++ c :: (t ++ y :: v) := by simpa using h
  obtain ⟨rfl, rfl, htail⟩ := append_cons_inj (hletters hq) (hletters hr)
    (by simp [(spaces_cons.1 hs.1).1]) (by simp [(spaces_cons.1 ht.1).1]) hwords
  rw [((spaces_cons.1 hs.1).2.append_inj (spaces_cons.1 ht.1).2 hx hy htail).1]

theorem BindingWord.exists_cons {g : Text} (h : BindingWord g) :
    ∃ c g', g = c :: g' ∧ c ∈ ['c', 'l', 'v'] := by
  obtain ⟨q, s, rfl, -, hq⟩ := h
  simp only [List.mem_cons, List.not_mem_nil, or_false] at hq
  rcases hq with rfl | rfl | rfl | rfl
  · exact ⟨'c', "lass".toList ++ s, rfl, by decide⟩
  · exact ⟨'c', "onst".toList ++ s, rfl, by decide⟩
  · exact ⟨'l', "et".toList ++ s, rfl, by decide⟩
  · exact ⟨'v', "ar".toList ++ s, rfl, by decide⟩

theorem DeclarationWord.exists_cons {g : Text} (h : DeclarationWord g) :
    ∃ c g', g = c :: g' ∧ c ∈ ['f', 'c', 'l', 'v'] := by
  rcases h with ⟨f, rfl, -⟩ | hg
  · exact ⟨'f', _, rfl, List.mem_cons_self⟩
  · obtain ⟨c, g', rfl, hc⟩ := hg.exists_cons
    exact ⟨c, g', rfl, List.mem_cons_of_mem _ hc⟩

theorem isSpace_of_initial {c : Char} (h : c ∈ ['f', 'c', 'l', 'v']) :
    Unicode.isSpace c = false := by
  have hall : ['f', 'c', 'l', 'v'].all (fun c => !Unicode.isSpace c) = true := by decide
  simpa using List.all_eq_true.1 hall c h

theorem SearchedHead.exists_cons {h : Text} (hh : SearchedHead h) :
    ∃ c h', h = c :: h' ∧ c ∈ ['a', 'f', 'c', 'l', 'v'] := by
  obtain ⟨u, g, rfl, rfl | ⟨s, rfl, -⟩, hg⟩ := hh
  · obtain ⟨c, g', rfl, hc⟩ := hg.exists_cons
    exact ⟨c, g', rfl, List.mem_cons_of_mem _ hc⟩
  · exact ⟨'a', _, rfl, List.mem_cons_self⟩

theorem DeclarationWord.append_inj {f g u v : Text} {x y : Char} (hf : DeclarationWord f)
    (hg : DeclarationWord g) (hx : identifierStart.contains x = true)
    (hy : identifierStart.contains y = true) (h : f ++ x :: u = g ++ y :: v) : f = g := by
  rcases hf with ⟨f, rfl, hf⟩ | hf <;> rcases hg with ⟨g, rfl, hg⟩ | hg
  · rw [List.append_assoc, List.append_assoc] at h
    rw [hf.append_inj hg hx hy (List.append_cancel_left h)]
  · obtain ⟨c, g, rfl, hc⟩ := hg.exists_cons
    obtain rfl : 'f' = c := (List.cons.inj h).1
    exact absurd hc (by decide)
  · obtain ⟨c, f, rfl, hc⟩ := hf.exists_cons
    obtain rfl : c = 'f' := (List.cons.inj h).1
    exact absurd hc (by decide)
  · exact hf.append_inj hg (isSpace_of_identifierStart hx) (isSpace_of_identifierStart hy) h

theorem SearchedHead.append_inj {g h u v : Text} {x y : Char} (hg : SearchedHead g)
    (hh : SearchedHead h) (hx : identifierStart.contains x = true)
    (hy : identifierStart.contains y = true) (heq : g ++ x :: u = h ++ y :: v) : g = h := by
  obtain ⟨a, g, rfl, ha, hg⟩ := hg
  obtain ⟨b, h, rfl, hb, hh⟩ := hh
  refine asyncWord_append_inj (fun g hg => ?_) (fun hg hh => hg.append_inj hh hx hy) ha hb hg hh
    (by simpa using heq)
  obtain ⟨c, g', rfl, hc⟩ := hg.exists_cons
  exact ⟨c, g', rfl, isSpace_of_initial hc, ne_of_mem_of_not_mem hc (by decide)⟩

/-- Only functions are said to be asynchronous. -/
theorem AsyncBinding.not_namedHead {h : Text} (h₁ : AsyncBinding h) : ¬ NamedHead h := by
  obtain ⟨s, g, rfl, hs, hg⟩ := h₁
  rintro (⟨u, f, heq, rfl | ⟨t, rfl, ht⟩, -⟩ | hbinding)
  · cases heq
  · obtain ⟨c, g, rfl, hc⟩ := hg.exists_cons
    have hspace := isSpace_of_initial (List.mem_cons_of_mem 'f' hc)
    have htail : s ++ c :: g = t ++ 'f' :: ("unction".toList ++ f) := by simpa using heq
    obtain ⟨-, rfl, -⟩ := hs.1.append_inj ht.1 hspace (by decide) htail
    exact absurd hc (by decide)
  · obtain ⟨c, g', heq, hc⟩ := BindingWord.exists_cons hbinding
    obtain rfl : 'a' = c := (List.cons.inj heq).1
    exact absurd hc (by decide)

/-- At one offset there is only one way to read a line up to a name. -/
theorem LineAt.unique {Head Head' : Text → Prop} (hhead : ∀ h, Head h → SearchedHead h)
    (hhead' : ∀ h, Head' h → SearchedHead h) {text name rest rest' : Text} {offset : Nat}
    (hname : Identifier name) (h : LineAt Head text name offset rest)
    (h' : LineAt Head' text name offset rest') : rest = rest' ∧ ∃ w, Head w ∧ Head' w := by
  obtain ⟨u, w, rfl, hu, hw, -⟩ := h
  obtain ⟨u', w', htext, hu', hw', -⟩ := h'
  obtain ⟨rfl, htail⟩ := List.append_inj htext (hu.trans hu'.symm)
  obtain ⟨x, n, rfl, hx, -⟩ := hname
  obtain rfl := (hhead w hw).append_inj (hhead' w' hw') hx hx htail
  exact ⟨List.append_cancel_left (List.append_cancel_left htail), w, hw, hw'⟩

/-! ### Misreadings -/

/-- The name ends in a dollar sign. -/
def EndsInDollar (name : Text) : Prop := name.getLast? = some '$'

instance (name : Text) : Decidable (EndsInDollar name) := inferInstanceAs (Decidable (_ = _))

/-- Behind the name the text goes on with it, and a dollar sign stands on just one side of the
place where they meet: the search takes that place for the end of a word. -/
def CutAtDollar (name rest : Text) : Prop :=
  if EndsInDollar name then Anchor.nearest Unicode.isWord rest = true else rest.head? = some '$'

/-- The search reads a declaration of the name at the offset, but the line declares a longer name,
or it says of a class or a variable that it is asynchronous. -/
def MisreadAt (text name : Text) (offset : Nat) : Prop :=
  ∃ rest, (LineAt SearchedHead text name offset rest ∧ CutAtDollar name rest) ∨
    (LineAt AsyncBinding text name offset rest ∧ ¬ EndsInDollar name ∧
      Anchor.nearest identifierPart.contains rest = false)

theorem LineAt.mono {Head Head' : Text → Prop} (hhead : ∀ h, Head h → Head' h)
    {text name rest : Text} {offset : Nat} (h : LineAt Head text name offset rest) :
    LineAt Head' text name offset rest := by
  obtain ⟨u, w, htext, hu, hw, hline⟩ := h
  exact ⟨u, w, htext, hu, hhead w hw, hline⟩

theorem nearest_identifierPart_eq_false_iff {rest : Text} :
    Anchor.nearest identifierPart.contains rest = false ↔
      Anchor.nearest Unicode.isWord rest = false ∧ rest.head? ≠ some '$' := by
  cases rest with
  | nil => simp [Anchor.nearest]
  | cons c rest =>
      show identifierPart.contains c = false ↔ Unicode.isWord c = false ∧ _
      rw [identifierPart, CharSet.contains_union, Bool.or_eq_false_iff, ← Bool.not_eq_true
        (CharSet.contains (.single '$') c), CharSet.contains_single]
      simp [CharSet.contains]

theorem CutAtDollar.nearest {name rest : Text} (h : CutAtDollar name rest) :
    Anchor.nearest identifierPart.contains rest = true := by
  rw [← Bool.not_eq_false, nearest_identifierPart_eq_false_iff]
  unfold CutAtDollar at h
  split at h
  · simp [h]
  · exact fun hrest => hrest.2 h

/-- Behind a name a word ends or begins just if the text does not go on with the name or if a
dollar sign stands on one side. -/
theorem holds_boundary_iff {name b rest : Text} (hname : Identifier name) :
    (Anchor.wordBoundary Unicode.isWord).holds (.between (name.reverse ++ b) rest) = true ↔
      CutAtDollar name rest ∨
        ¬ EndsInDollar name ∧ Anchor.nearest identifierPart.contains rest = false := by
  have hdollar : Unicode.isWord '$' = false := by decide
  obtain ⟨front, c, rfl⟩ : ∃ front c, name = front ++ [c] := by
    obtain ⟨x, v, rfl, -, -⟩ := hname
    exact ⟨_, _, (List.dropLast_concat_getLast (List.cons_ne_nil x v)).symm⟩
  have hends : EndsInDollar (front ++ [c]) ↔ c = '$' := by simp [EndsInDollar]
  have hholds : (Anchor.wordBoundary Unicode.isWord).holds
      (.between ((front ++ [c]).reverse ++ b) rest) = true ↔
        Unicode.isWord c ≠ Anchor.nearest Unicode.isWord rest := by
    simp [Anchor.holds, Anchor.nearest]
  rw [hholds, CutAtDollar, nearest_identifierPart_eq_false_iff]
  by_cases hc : c = '$'
  · have hend := hends.2 hc
    rw [if_pos hend, or_iff_left fun h => h.1 hend, hc, hdollar]
    cases Anchor.nearest Unicode.isWord rest <;> simp
  · have hend := mt hends.1 hc
    have hword : Unicode.isWord c = true := by
      have hpart := hname.forall_mem c (by simp)
      rw [identifierPart, CharSet.contains_union, Bool.or_eq_true, CharSet.contains_single] at hpart
      exact hpart.resolve_right hc
    have hafter : rest.head? = some '$' → Anchor.nearest Unicode.isWord rest = false := by
      cases rest with
      | nil => simp
      | cons d rest => exact fun hd => (Option.some.inj hd) ▸ hdollar
    rw [if_neg hend, and_iff_right hend, hword]
    by_cases hd : rest.head? = some '$'
    · simp [hd, hafter hd]
    · cases Anchor.nearest Unicode.isWord rest <;> simp [hd]

/-- The search reads what it misreads and, unless the name ends in a dollar sign, what declares the
name. -/
theorem readAt_iff {text name : Text} {offset : Nat} (hname : Identifier name) :
    ReadAt text name offset ↔
      MisreadAt text name offset ∨ (¬ EndsInDollar name ∧ DeclaresAt text name offset) := by
  have hread : ReadAt text name offset ↔ ∃ rest, LineAt SearchedHead text name offset rest ∧
      (CutAtDollar name rest ∨
        ¬ EndsInDollar name ∧ Anchor.nearest identifierPart.contains rest = false) := by
    constructor
    · rintro ⟨u, _, rfl, hu, hfits⟩
      obtain ⟨hline, h, rest, rfl, hh, hrest⟩ := fits_declarationOf_iff.1 hfits
      exact ⟨rest, ⟨u, h, rfl, hu, hh, hline⟩, (holds_boundary_iff hname).1 hrest⟩
    · rintro ⟨rest, ⟨u, h, rfl, hu, hh, hline⟩, hrest⟩
      exact ⟨u, _, rfl, hu, fits_declarationOf_iff.2 ⟨hline, h, rest, rfl, hh,
        (holds_boundary_iff hname).2 hrest⟩⟩
  rw [hread]
  constructor
  · rintro ⟨rest, hline, hcut | ⟨hends, hrest⟩⟩
    · exact .inl ⟨rest, .inl ⟨hline, hcut⟩⟩
    · obtain ⟨u, h, htext, hu, hh, hstart⟩ := hline
      rcases searchedHead_iff.1 hh with hh | hh
      · exact .inr ⟨hends, rest, ⟨u, h, htext, hu, hh, hstart⟩, hrest⟩
      · exact .inl ⟨rest, .inr ⟨⟨u, h, htext, hu, hh, hstart⟩, hends, hrest⟩⟩
  · rintro (⟨rest, ⟨hline, hcut⟩ | ⟨hline, hends, hrest⟩⟩ | ⟨hends, rest, hline, hrest⟩)
    · exact ⟨rest, hline, .inl hcut⟩
    · exact ⟨rest, hline.mono fun h hh => searchedHead_iff.2 (.inr hh), .inr ⟨hends, hrest⟩⟩
    · exact ⟨rest, hline.mono fun h hh => searchedHead_iff.2 (.inl hh), .inr ⟨hends, hrest⟩⟩

/-- What is misread does not declare the name. -/
theorem MisreadAt.not_declaresAt {text name : Text} {offset : Nat} (hname : Identifier name)
    (h : MisreadAt text name offset) : ¬ DeclaresAt text name offset := by
  rintro ⟨rest, hline, hrest⟩
  have hnamed : ∀ h, NamedHead h → SearchedHead h := fun h hh => searchedHead_iff.2 (.inl hh)
  obtain ⟨rest', ⟨hline', hcut⟩ | ⟨hline', -, -⟩⟩ := h
  · obtain ⟨rfl, -⟩ := hline.unique hnamed (fun _ hh => hh) hname hline'
    rw [hcut.nearest] at hrest
    cases hrest
  · obtain ⟨-, w, hw, hw'⟩ :=
      hline.unique hnamed (fun h hh => searchedHead_iff.2 (.inr hh)) hname hline'
    exact hw'.not_namedHead hw

/-! ### When the first declaration is found -/

/-- Where the search finds the first line that declares the name, nothing is misread before it. -/
theorem FindsDeclared.exists_before {text name : Text} (h : FindsDeclared text name)
    (hname : Identifier name) {offset : Nat} (hmisread : MisreadAt text name offset) :
    ∃ earlier < offset, DeclaresAt text name earlier := by
  have hread : ReadAt text name offset := (readAt_iff hname).2 (.inl hmisread)
  obtain ⟨start, hstart⟩ :=
    Option.isSome_iff_exists.1 (isSome_declarationStart?_iff.2 ⟨offset, hread⟩)
  have hdeclares := (h.first start hstart).1
  have hle : start.offset ≤ offset :=
    Nat.le_of_not_lt fun hlt => (readAt_of_declarationStart? hstart).2 offset hlt hread
  refine ⟨start.offset, Nat.lt_of_le_of_ne hle ?_, hdeclares⟩
  intro heq
  exact hmisread.not_declaresAt hname (heq ▸ hdeclares)

/-- A name that ends in a dollar sign is not found where it is declared. -/
theorem FindsDeclared.not_declaresAt {text name : Text} (h : FindsDeclared text name)
    (hname : Identifier name) (hends : EndsInDollar name) (offset : Nat) :
    ¬ DeclaresAt text name offset := by
  intro hdeclares
  obtain ⟨start, hstart⟩ := Option.isSome_iff_exists.1 (h.isSome_iff.2 ⟨offset, hdeclares⟩)
  have hread := (readAt_of_declarationStart? hstart).1
  have hmisread := ((readAt_iff hname).1 hread).resolve_right fun hright => hright.1 hends
  exact hmisread.not_declaresAt hname (h.first start hstart).1

/-- The search finds the first line that declares the name just if no line before it is misread,
and if the name does not end in a dollar sign where it is declared. -/
theorem findsDeclared_iff {text name : Text} (hname : Identifier name) :
    FindsDeclared text name ↔
      (∀ offset, MisreadAt text name offset → ∃ earlier < offset, DeclaresAt text name earlier) ∧
        (EndsInDollar name → ∀ offset, ¬ DeclaresAt text name offset) := by
  constructor
  · intro h
    exact ⟨fun offset => h.exists_before hname, h.not_declaresAt hname⟩
  · rintro ⟨hbefore, hdollar⟩
    have hread : ∀ {offset}, DeclaresAt text name offset → ReadAt text name offset :=
      fun h => (readAt_iff hname).2 (.inr ⟨fun hends => hdollar hends _ h, h⟩)
    have hfirst : ∀ start, declarationStart? text name = some start →
        DeclaresAt text name start.offset ∧
          ∀ offset < start.offset, ¬ DeclaresAt text name offset := by
      intro start hstart
      obtain ⟨hat, hno⟩ := readAt_of_declarationStart? hstart
      refine ⟨?_, fun offset hlt h => hno offset hlt (hread h)⟩
      rcases (readAt_iff hname).1 hat with hmisread | ⟨-, h⟩
      · obtain ⟨earlier, hlt, h⟩ := hbefore _ hmisread
        exact absurd (hread h) (hno earlier hlt)
      · exact h
    refine ⟨isSome_declarationStart?_iff.trans ⟨?_, fun ⟨offset, h⟩ => ⟨offset, hread h⟩⟩, hfirst, ?_⟩
    · rintro ⟨offset, h⟩
      rcases (readAt_iff hname).1 h with hmisread | ⟨-, h⟩
      · obtain ⟨earlier, -, h⟩ := hbefore offset hmisread
        exact ⟨earlier, h⟩
      · exact ⟨offset, h⟩
    · rintro m - rfl
      unfold editsFor
      cases hstart : declarationStart? text (m.group exportGroup) with
      | none => exact .inl rfl
      | some start => exact .inr ⟨start.offset, (hfirst start hstart).1, rfl⟩

theorem identifier_price : Identifier "price".toList :=
  ⟨'p', "rice".toList, rfl, by decide, List.all_eq_true.1 (by decide)⟩

theorem namedHead_const : NamedHead "const ".toList :=
  .inr ⟨"const".toList, [' '], rfl, spaces1_blank, by simp⟩

/-- A line that is misread does no harm behind one that declares the name. -/
theorem findsDeclared_longer_name_behind :
    Identifier "price".toList ∧
      FindsDeclared "const price = 1\nconst price$net = 2\n".toList "price".toList := by
  have hdeclares :
      DeclaresAt "const price = 1\nconst price$net = 2\n".toList "price".toList 0 :=
    ⟨" = 1\nconst price$net = 2\n".toList, ⟨[], "const ".toList, rfl, rfl, namedHead_const, rfl⟩,
      by decide⟩
  refine ⟨identifier_price, (findsDeclared_iff identifier_price).2 ⟨fun offset hmisread => ?_, ?_⟩⟩
  · refine ⟨0, Nat.pos_of_ne_zero ?_, hdeclares⟩
    rintro rfl
    exact hmisread.not_declaresAt identifier_price hdeclares
  · exact fun hends => absurd hends (by decide)

/-- The first part of a longer name is found as a name. -/
theorem not_findsDeclared_longer_name :
    Identifier "price".toList ∧
      ¬ FindsDeclared "const price$net = 1\nexport default price\n".toList "price".toList := by
  have hmisread :
      MisreadAt "const price$net = 1\nexport default price\n".toList "price".toList 0 :=
    ⟨"$net = 1\nexport default price\n".toList, .inl ⟨⟨[], "const ".toList, rfl, rfl,
      searchedHead_iff.2 (.inl namedHead_const), rfl⟩, by unfold CutAtDollar; decide⟩⟩
  refine ⟨identifier_price, fun h => ?_⟩
  obtain ⟨earlier, hlt, -⟩ := h.exists_before identifier_price hmisread
  exact Nat.not_lt_zero earlier hlt

end CodeMigration.NamedExports
