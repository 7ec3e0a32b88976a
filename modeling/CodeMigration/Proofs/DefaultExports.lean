import CodeMigration.Migration.NamedExports
import CodeMigration.Proofs.Lexemes
import CodeMigration.Proofs.Passes

/-!
# CodeMigration.Proofs.DefaultExports

Default exports of functions and classes, and what is left of them after a pass of the
rule for one kind. A `Kind` is a pattern for declarations together with the words that
stand before the declared name; all that follows is proved for a kind, or for two kinds
whose words begin with different letters.

A pass of the rule for a kind replaces `export … default … f` by `export f`, where `f` is
the first letter of the declaration, and keeps all other characters. So

* a default export of the kind that is left was hidden: it began inside a match
  (`occurs_apply_iff_hides`);
* default exports of another kind are neither made nor destroyed
  (`occurs_apply_iff_of_ne`).
-/

namespace CodeMigration.NamedExports

open Pattern Piece

/-- The word `export` does not begin in the text, whatever follows it. -/
abbrev Exportless (w : Text) : Prop := Lacks 'e' 'x' w

theorem Exportless.of_spaces {s : Text} (h : Spaces s) : Exportless s :=
  lacks_of_not_mem fun he => absurd (h 'e' he) (by decide)

/-! ### Kinds of declarations -/

/-- The text begins with words of the given kind and the start of a name. -/
def Opens (Head : Text → Prop) (a : Text) : Prop :=
  ∃ h x r, a = h ++ x :: r ∧ Head h ∧ Lexeme.identifierStart.contains x = true

/-- The text is made of words of the given kind and a name. -/
def Declares (Head : Text → Prop) (d : Text) : Prop :=
  ∃ h n, d = h ++ n ∧ Head h ∧ Lexeme.Identifier n

/-- A kind of declarations that can be exported. -/
structure Kind where
  /-- The declarations of this kind. -/
  declaration : Pattern
  /-- What stands before the declared name. -/
  Head : Text → Prop
  /-- The letters that a declaration can begin with. -/
  initials : List Char
  /-- A declaration is what stands before the name and the name. -/
  takes_iff : ∀ b d a k, declaration.Takes b d a k ↔ Declares Head d ∧ k = []
  /-- What stands before the name begins with one of the letters. -/
  exists_initial : ∀ h, Head h → ∃ c t, h = c :: t ∧ c ∈ initials
  /-- No default export begins before the name. -/
  exportless : ∀ h, Head h → Exportless h
  /-- A declaration does not begin like the words of a default export. -/
  initials_ne : ∀ c ∈ initials, Unicode.isSpace c = false ∧ c ≠ 'd' ∧ c ≠ 'e'
  /-- The pattern has no marks. -/
  isPlain : declaration.isPlain = true
  /-- The pattern takes something. -/
  isSolid : declaration.isSolid = true
  /-- The name is taken whole. -/
  exhausts : declaration.Exhausts Lexeme.identifierPart

/-- Nothing, or the word that makes a function asynchronous with space behind it. -/
def AsyncWord (w : Text) : Prop := w = [] ∨ ∃ s, w = "async".toList ++ s ∧ Spaces1 s

/-- What stands between the word for a function and its name. -/
def FunctionGap (w : Text) : Prop :=
  (∃ s t, w = s ++ '*' :: t ∧ Spaces s ∧ Spaces t) ∨ Spaces1 w

/-- What stands before the name of a function. -/
def FunctionHead (h : Text) : Prop :=
  ∃ u g, h = u ++ "function".toList ++ g ∧ AsyncWord u ∧ FunctionGap g

/-- What stands before the name of a class. -/
def ClassHead (h : Text) : Prop := ∃ s, h = "class".toList ++ s ∧ Spaces1 s

theorem takes_optionalAsync_iff {b w a : Text} {k : Captures} :
    optionalAsync.Takes b w a k ↔ AsyncWord w ∧ k = [] := by
  simp only [optionalAsync, takes_optional_iff, takes_seq_iff, literal, takes_word_iff,
    Lexeme.takes_blanks1_iff, AsyncWord]
  constructor
  · rintro (⟨u, s, k₁, k₂, rfl, ⟨rfl, rfl⟩, ⟨hs, rfl⟩, rfl⟩ | ⟨rfl, rfl⟩)
    · exact ⟨.inr ⟨s, rfl, hs⟩, rfl⟩
    · exact ⟨.inl rfl, rfl⟩
  · rintro ⟨rfl | ⟨s, rfl, hs⟩, rfl⟩
    · exact .inr ⟨rfl, rfl⟩
    · exact .inl ⟨_, s, [], [], rfl, ⟨rfl, rfl⟩, ⟨hs, rfl⟩, rfl⟩

theorem takes_functionGap_iff {b w a : Text} {k : Captures} :
    functionGap.Takes b w a k ↔ FunctionGap w ∧ k = [] := by
  simp only [functionGap, takes_alt_iff, takes_seqs_iff, TakesAll, literal, takes_word_iff,
    Lexeme.takes_blanks_iff, Lexeme.takes_blanks1_iff, FunctionGap]
  constructor
  · rintro (⟨s, _, _, _, rfl, ⟨hs, rfl⟩, ⟨_, t, _, _, rfl, ⟨rfl, rfl⟩,
      ⟨t, _, _, _, rfl, ⟨ht, rfl⟩, ⟨rfl, rfl⟩, rfl⟩, rfl⟩, rfl⟩ | ⟨hw, rfl⟩)
    · exact ⟨.inl ⟨s, t, by simp, hs, ht⟩, rfl⟩
    · exact ⟨.inr hw, rfl⟩
  · rintro ⟨⟨s, t, rfl, hs, ht⟩ | hw, rfl⟩
    · exact .inl ⟨s, '*' :: t, [], [], rfl, ⟨hs, rfl⟩, ⟨['*'], t, [], [], rfl, ⟨rfl, rfl⟩,
        ⟨t, [], [], [], by simp, ⟨ht, rfl⟩, ⟨rfl, rfl⟩, rfl⟩, rfl⟩, rfl⟩
    · exact .inr ⟨hw, rfl⟩

theorem takes_functionDeclaration_iff (b d a : Text) (k : Captures) :
    functionDeclaration.Takes b d a k ↔ Declares FunctionHead d ∧ k = [] := by
  simp only [functionDeclaration, takes_seqs_iff, TakesAll, takes_optionalAsync_iff, literal,
    takes_word_iff, takes_functionGap_iff, Lexeme.takes_identifier_iff]
  constructor
  · rintro ⟨u, _, _, _, rfl, ⟨hu, rfl⟩, ⟨_, _, _, _, rfl, ⟨rfl, rfl⟩, ⟨g, _, _, _, rfl, ⟨hg, rfl⟩,
      ⟨n, _, _, _, rfl, ⟨hn, rfl⟩, ⟨rfl, rfl⟩, rfl⟩, rfl⟩, rfl⟩, rfl⟩
    exact ⟨⟨u ++ "function".toList ++ g, n, by simp, ⟨u, g, rfl, hu, hg⟩, hn⟩, rfl⟩
  · rintro ⟨⟨_, n, rfl, ⟨u, g, rfl, hu, hg⟩, hn⟩, rfl⟩
    exact ⟨u, "function".toList ++ (g ++ n), [], [], by simp, ⟨hu, rfl⟩, ⟨_, g ++ n, [], [], rfl,
      ⟨rfl, rfl⟩, ⟨g, n, [], [], rfl, ⟨hg, rfl⟩, ⟨n, [], [], [], by simp, ⟨hn, rfl⟩, ⟨rfl, rfl⟩,
      rfl⟩, rfl⟩, rfl⟩, rfl⟩

theorem takes_classDeclaration_iff (b d a : Text) (k : Captures) :
    classDeclaration.Takes b d a k ↔ Declares ClassHead d ∧ k = [] := by
  simp only [classDeclaration, takes_seqs_iff, TakesAll, literal, takes_word_iff,
    Lexeme.takes_blanks1_iff, Lexeme.takes_identifier_iff]
  constructor
  · rintro ⟨_, _, _, _, rfl, ⟨rfl, rfl⟩, ⟨s, _, _, _, rfl, ⟨hs, rfl⟩, ⟨n, _, _, _, rfl, ⟨hn, rfl⟩,
      ⟨rfl, rfl⟩, rfl⟩, rfl⟩, rfl⟩
    exact ⟨⟨"class".toList ++ s, n, by simp, ⟨s, rfl, hs⟩, hn⟩, rfl⟩
  · rintro ⟨⟨_, n, rfl, ⟨s, rfl, hs⟩, hn⟩, rfl⟩
    exact ⟨_, s ++ n, [], [], by simp, ⟨rfl, rfl⟩, ⟨s, n, [], [], rfl, ⟨hs, rfl⟩,
      ⟨n, [], [], [], by simp, ⟨hn, rfl⟩, ⟨rfl, rfl⟩, rfl⟩, rfl⟩, rfl⟩

/-- Functions, asynchronous ones and generators among them. -/
def functions : Kind where
  declaration := functionDeclaration
  Head := FunctionHead
  initials := ['a', 'f']
  takes_iff := takes_functionDeclaration_iff
  exists_initial := by
    rintro _ ⟨u, g, rfl, rfl | ⟨s, rfl, -⟩, -⟩
    · exact ⟨'f', "unction".toList ++ g, rfl, by simp⟩
    · exact ⟨'a', "sync".toList ++ s ++ "function".toList ++ g, rfl, by simp⟩
  exportless := by
    rintro _ ⟨u, g, rfl, hu, hg⟩
    refine .append (.append ?_ (lacks_of_not_mem (by decide))) ?_
    · rcases hu with rfl | ⟨s, rfl, hs⟩
      · trivial
      · exact .append (lacks_of_not_mem (by decide)) (Exportless.of_spaces hs.1)
    · rcases hg with ⟨s, t, rfl, hs, ht⟩ | hg
      · exact .append (Exportless.of_spaces hs) ⟨by simp, Exportless.of_spaces ht⟩
      · exact Exportless.of_spaces hg.1
  initials_ne := List.forall_mem_cons.2 ⟨by decide, List.forall_mem_singleton.2 (by decide)⟩
  isPlain := by decide
  isSolid := by decide
  exhausts := exhausts_identifier.seqs optionalAsync [.literal "function", functionGap]

/-- Classes. -/
def classes : Kind where
  declaration := classDeclaration
  Head := ClassHead
  initials := ['c']
  takes_iff := takes_classDeclaration_iff
  exists_initial := by
    rintro _ ⟨s, rfl, -⟩
    exact ⟨'c', "lass".toList ++ s, rfl, by simp⟩
  exportless := by
    rintro _ ⟨s, rfl, hs⟩
    exact .append (lacks_of_not_mem (by decide)) (Exportless.of_spaces hs.1)
  initials_ne := List.forall_mem_singleton.2 (by decide)
  isPlain := by decide
  isSolid := by decide
  exhausts := exhausts_identifier.seqs (.literal "class") [Lexeme.blanks1]

theorem functions_ne_classes : ∀ c ∈ functions.initials, c ∉ classes.initials :=
  List.forall_mem_cons.2 ⟨by decide, List.forall_mem_singleton.2 (by decide)⟩

theorem classes_ne_functions : ∀ c ∈ classes.initials, c ∉ functions.initials :=
  List.forall_mem_singleton.2 (by decide)

/-! ### Default exports of a kind -/

/-- The words of a default export with what stands before the name. -/
def ExportHead (Head : Text → Prop) (h : Text) : Prop :=
  ∃ s t d, h = "export".toList ++ s ++ "default".toList ++ t ++ d ∧ Spaces1 s ∧ Spaces1 t ∧ Head d

theorem ExportHead.eq_cons {K : Kind} {h : Text} (hh : ExportHead K.Head h) :
    ∃ h', h = 'e' :: h' ∧ Exportless h' := by
  obtain ⟨s, t, d, rfl, hs, ht, hd⟩ := hh
  refine ⟨"xport".toList ++ s ++ "default".toList ++ t ++ d, rfl, ?_⟩
  have hdefault : Exportless "default".toList := by simp [Lacks]
  exact .append (.append (.append (.append (lacks_of_not_mem (by decide)) (Exportless.of_spaces hs.1))
    hdefault) (Exportless.of_spaces ht.1)) (K.exportless d hd)

namespace Kind

/-- The default exports of the kind. -/
def pattern (K : Kind) : Pattern := exportOf K.declaration

theorem isPlain_pattern (K : Kind) : K.pattern.isPlain = true := by
  simp [pattern, exportOf, exportDefault, seqs, Pattern.isPlain, K.isPlain]
  decide

theorem isSolid_pattern (K : Kind) : K.pattern.isSolid = true := by
  simp [pattern, exportOf, exportDefault, seqs, Pattern.isSolid, K.isSolid]

theorem exhausts_pattern (K : Kind) : K.pattern.Exhausts Lexeme.identifierPart :=
  (K.exhausts.group exportGroup).seqs .boundary exportDefault

theorem fits_iff {K : Kind} {b a : Text} : K.declaration.Fits b a ↔ Opens K.Head a := by
  simp only [Fits, K.takes_iff]
  constructor
  · rintro ⟨_, r, _, rfl, ⟨h, _, rfl, hh, ⟨x, v, rfl, hx, -⟩⟩, rfl⟩
    exact ⟨h, x, v ++ r, by simp, hh, hx⟩
  · rintro ⟨h, x, r, rfl, hh, hx⟩
    exact ⟨h ++ [x], r, [], by simp, ⟨h, [x], rfl, hh, ⟨x, [], rfl, hx, by simp⟩⟩, rfl⟩

/-- A default export begins where no word goes on. -/
theorem fits_pattern_iff {K : Kind} {b a : Text} :
    K.pattern.Fits b a ↔
      Anchor.nearest Unicode.isWord b = false ∧ Opens (ExportHead K.Head) a := by
  simp only [pattern, exportOf, exportDefault, fits_seqs_iff, List.cons_append, List.nil_append,
    boundary, fitsAll_look_cons, fitsAll_literal_cons, Lexeme.fitsAll_blanks1_cons,
    fitsAll_singleton, fits_group_iff, fits_iff]
  constructor
  · rintro ⟨hb, _, rfl, s, _, rfl, hs, _, rfl, t, _, rfl, ht, d, x, r, rfl, hd, hx⟩
    refine ⟨(holds_wordBoundary_iff (by decide)).1 hb, ?_⟩
    exact ⟨_, x, r, by simp, ⟨s, t, d, rfl, hs, ht, hd⟩, hx⟩
  · rintro ⟨hb, _, x, r, rfl, ⟨s, t, d, rfl, hs, ht, hd⟩, hx⟩
    refine ⟨(holds_wordBoundary_iff (by decide)).2 hb, ?_⟩
    exact ⟨_, by simp, s, _, rfl, hs, _, rfl, t, _, rfl, ht, d, x, r, rfl, hd, hx⟩

theorem exists_initial_of_declares {K : Kind} {d : Text} (h : Declares K.Head d) :
    ∃ c d', d = c :: d' ∧ c ∈ K.initials := by
  obtain ⟨w, n, rfl, hw, -⟩ := h
  obtain ⟨c, w, rfl, hc⟩ := K.exists_initial w hw
  exact ⟨c, w ++ n, rfl, hc⟩

/-- What a default export takes, and the named export in its place. -/
theorem takes_pattern {K : Kind} {b w r : Text} {k : Captures} (h : K.pattern.Takes b w r k) :
    ∃ s t d, w = "export".toList ++ s ++ "default".toList ++ t ++ d ∧ Spaces1 s ∧ Spaces1 t ∧
      Declares K.Head d ∧ exportNamed (.taken b w r k) = "export ".toList ++ d := by
  simp only [pattern, exportOf, exportDefault, takes_seqs_iff, List.cons_append, List.nil_append,
    boundary, takesAll_look_cons, takesAll_literal_cons, Lexeme.takesAll_blanks1_cons,
    takesAll_group_cons, takesAll_nil, K.takes_iff] at h
  obtain ⟨-, _, rfl, s, _, rfl, hs, _, rfl, t, _, rfl, ht, d, _, _, _, rfl, ⟨hd, rfl⟩, ⟨rfl, rfl⟩,
    rfl⟩ := h
  refine ⟨s, t, d, by simp, hs, ht, hd, ?_⟩
  exact congrArg ("export ".toList ++ ·) (Match.group_taken (by decide))

/-! ### The pieces of a pass -/

/-- What gives way in a default export of the kind and what takes its place. The first
letter of the declaration belongs to both, so that the new part can be told from the
start of a default export. -/
def Turned (K : Kind) (o n : Text) : Prop :=
  ∃ s t c, Spaces1 s ∧ Spaces1 t ∧ c ∈ K.initials ∧
    o = "export".toList ++ s ++ "default".toList ++ t ++ [c] ∧ n = "export ".toList ++ [c]

/-- Both parts begin with the word `export`, and it does not begin in them again. -/
theorem Turned.eq_cons {K : Kind} {o n : Text} (h : K.Turned o n) :
    (∃ o', o = 'e' :: 'x' :: o' ∧ Exportless ('x' :: o')) ∧
      ∃ n', n = 'e' :: 'x' :: n' ∧ Exportless ('x' :: n') := by
  obtain ⟨s, t, c, hs, ht, hc, rfl, rfl⟩ := h
  have hce : Exportless [c] := lacks_of_not_mem (by
    simpa using (K.initials_ne c hc).2.2.symm)
  have hdefault : Exportless "default".toList := by simp [Lacks]
  constructor
  · refine ⟨"port".toList ++ s ++ "default".toList ++ t ++ [c], rfl, ?_⟩
    exact .append (.append (.append (.append (u := "xport".toList)
      (lacks_of_not_mem (by decide)) (Exportless.of_spaces hs.1)) hdefault) (Exportless.of_spaces ht.1)) hce
  · refine ⟨"port ".toList ++ [c], rfl, ?_⟩
    exact .append (u := "xport ".toList) (lacks_of_not_mem (by decide)) hce

theorem isPrefix_of_opens {K : Kind} {a : Text} (h : Opens (ExportHead K.Head) a) :
    ['e', 'x'] <+: a := by
  obtain ⟨_, x, r, rfl, ⟨s, t, d, rfl, -, -, -⟩, -⟩ := h
  exact ⟨"port".toList ++ s ++ "default".toList ++ t ++ d ++ x :: r, by simp⟩

theorem not_opens_of_exportless {K : Kind} {u v t : Text} (h : Exportless (u ++ v)) (hv : v ≠ []) :
    ¬ Opens (ExportHead K.Head) (v ++ t) :=
  fun hopens => h.not_isPrefix hv (isPrefix_of_opens hopens)

/-- Neither part begins with a default export of a kind with other first letters; the
new part begins with none at all. -/
theorem not_opens_new {K L : Kind} {o n t : Text} (h : K.Turned o n) :
    ¬ Opens (ExportHead L.Head) (n ++ t) := by
  obtain ⟨s, t', c, -, -, hc, -, rfl⟩ := h
  rintro ⟨_, x, r, heq, ⟨s', t', d, rfl, hs', -, -⟩, -⟩
  have hblank : [' '] ++ c :: t = s' ++ 'd' :: ("efault".toList ++ t' ++ d ++ x :: r) := by
    simpa using heq
  obtain ⟨-, rfl, -⟩ := Spaces.append_inj (by simp; decide) hs'.1 (K.initials_ne c hc).1
    (by decide) hblank
  exact (K.initials_ne 'd' hc).2.1 rfl

theorem not_opens_old {K L : Kind} (hne : ∀ c ∈ K.initials, c ∉ L.initials) {o n t : Text}
    (h : K.Turned o n) : ¬ Opens (ExportHead L.Head) (o ++ t) := by
  obtain ⟨s, s', c, hs, hs', hc, rfl, -⟩ := h
  rintro ⟨_, x, r, heq, ⟨z, z', d, rfl, hz, hz', hd⟩, -⟩
  obtain ⟨c', d', rfl, hc'⟩ := L.exists_initial d hd
  have hfirst : s ++ 'd' :: ("efault".toList ++ s' ++ c :: t) =
      z ++ 'd' :: ("efault".toList ++ z' ++ c' :: d' ++ x :: r) := by simpa using heq
  obtain ⟨-, -, hrest⟩ := Spaces.append_inj hs.1 hz.1 (by decide) (by decide) hfirst
  have hsecond : s' ++ c :: t = z' ++ c' :: (d' ++ x :: r) := by simpa using hrest
  obtain ⟨-, rfl, -⟩ := Spaces.append_inj hs'.1 hz'.1 (K.initials_ne c hc).1
    (L.initials_ne c' hc').1 hsecond
  exact hne c hc hc'

/-- At one place there are no default exports of two kinds with different first letters. -/
theorem not_fits_of_fits {K L : Kind} (hne : ∀ c ∈ K.initials, c ∉ L.initials) {b a : Text}
    (h : K.pattern.Fits b a) : ¬ L.pattern.Fits b a := by
  obtain ⟨-, _, x, r, rfl, ⟨s, t, d, rfl, hs, ht, hd⟩, -⟩ := fits_pattern_iff.1 h
  obtain ⟨c, d, rfl, hc⟩ := K.exists_initial d hd
  intro hL
  refine not_opens_old hne (t := d ++ x :: r) ⟨s, t, c, hs, ht, hc, rfl, rfl⟩ ?_
  simpa using (fits_pattern_iff.1 hL).2

/-- A default export at a character that stays is there in the new text too. -/
theorem opens_newText {K : Kind} {c : Char} {ps : List Piece}
    (hps : All (fun o n => ['e', 'x'] <+: o ∧ ['e', 'x'] <+: n) ps)
    (h : Opens (ExportHead K.Head) (c :: oldText ps)) :
    Opens (ExportHead K.Head) (c :: newText ps) := by
  obtain ⟨w, x, r, heq, hw, hx⟩ := h
  obtain ⟨w', rfl, hless⟩ := hw.eq_cons
  obtain ⟨rfl, hold⟩ := List.cons.inj heq
  -- the words stay, for no part that gives way begins in them
  obtain ⟨qs, rfl, hqs⟩ := eq_kept_append (w := w') hold fun o n hmem u v huv hv hpre =>
    (huv ▸ hless).not_isPrefix hv ((hps o n hmem).1.trans hpre)
  refine ⟨'e' :: w', x, (newText qs).tail, ?_, hw, hx⟩
  suffices hhead : newText qs = x :: (newText qs).tail by simp [← hhead]
  cases qs with
  | nil => cases hqs
  | cons q qs =>
      cases q with
      | kept d =>
          obtain ⟨rfl, -⟩ := List.cons.inj hqs
          rfl
      | swapped o n =>
          obtain ⟨⟨o', rfl⟩, n', rfl⟩ := hps o n (by simp)
          obtain ⟨rfl, -⟩ := List.cons.inj hqs
          rfl

/-- What stands before a place ends in a word character in both texts or in none. -/
def SameEdge (b b' : Text) : Prop :=
  Anchor.nearest Unicode.isWord b = Anchor.nearest Unicode.isWord b'

/-- The default exports of any kind after a pass for one kind are those before the pass
at characters that stay. -/
theorem steady (K L : Kind) : Steady L.pattern K.Turned SameEdge where
  solid := by
    rintro b h
    obtain ⟨-, _, x, r, heq, -, -⟩ := fits_pattern_iff.1 h
    simp at heq
  fits_kept := by
    intro b b' c ps hb hps
    rw [fits_pattern_iff, fits_pattern_iff, ← hb]
    refine and_congr_right fun _ => ⟨fun h => ?_, opens_newText fun o n hmem => ?_⟩
    · rw [← newText_map_flip]
      refine opens_newText (hps.flip fun o n hQ => ?_) (by rwa [oldText_map_flip])
      obtain ⟨⟨o', rfl, -⟩, n', rfl, -⟩ := hQ.eq_cons
      exact ⟨⟨n', rfl⟩, o', rfl⟩
    · obtain ⟨⟨o', rfl, -⟩, n', rfl, -⟩ := (hps o n hmem).eq_cons
      exact ⟨⟨o', rfl⟩, n', rfl⟩
  not_fits_new := by
    intro b' o n ps hQ _ u v huv hv hfits
    have hopens := (fits_pattern_iff.1 hfits).2
    cases u with
    | nil =>
        obtain rfl : n = v := huv
        exact not_opens_new hQ hopens
    | cons c u =>
        obtain ⟨-, n', rfl, hless⟩ := hQ.eq_cons
        obtain ⟨rfl, hn'⟩ := List.cons.inj huv
        exact not_opens_of_exportless (hn' ▸ hless) hv hopens
  agree_kept := fun _ _ _ _ => rfl
  agree_swapped := by
    rintro b b' _ _ - ⟨s, t, c, -, -, -, rfl, rfl⟩
    simp [SameEdge, Anchor.nearest]

theorem cuts (K : Kind) : Cuts K.pattern exportNamed K.Turned where
  cut := by
    intro b w r k h
    obtain ⟨s, t, d, rfl, hs, ht, hd, hnamed⟩ := takes_pattern h
    obtain ⟨c, d, rfl, hc⟩ := exists_initial_of_declares hd
    refine ⟨"export".toList ++ s ++ "default".toList ++ t ++ [c], "export ".toList ++ [c],
      d.map kept, by simp, ?_, by simp, ⟨s, t, c, hs, ht, hc, rfl, rfl⟩, All.map_kept d⟩
    rw [hnamed, newText_map_kept, List.append_assoc, List.singleton_append]
  not_fits_inside := by
    intro b o n u v t hQ huv hu hv hfits
    obtain ⟨⟨o', rfl, hless⟩, -⟩ := hQ.eq_cons
    cases u with
    | nil => exact hu rfl
    | cons c u =>
        obtain ⟨rfl, ho'⟩ := List.cons.inj huv
        exact not_opens_of_exportless (ho' ▸ hless) hv (fits_pattern_iff.1 hfits).2

/-- A default export that is left after a pass for its kind began inside a match. -/
theorem occurs_apply_iff_hides (K : Kind) (text : Text) :
    K.pattern.Occurs [] (K.pattern.replaceAll exportNamed text) ↔
      ∃ m ∈ K.pattern.matchesIn text, K.pattern.Hides m := by
  obtain ⟨ps, -, hnew, hall, hkept⟩ :=
    K.cuts.exists_pieces (scans_matchesIn K.isPlain_pattern K.isSolid_pattern text)
  rw [replaceAll_eq, ← hnew, (K.steady K).occurs_newText_iff hall rfl, hkept]

/-- A pass for one kind leaves the default exports of the other kinds alone. -/
theorem occurs_apply_iff_of_ne {K L : Kind} (hne : ∀ c ∈ K.initials, c ∉ L.initials)
    (text : Text) :
    L.pattern.Occurs [] (K.pattern.replaceAll exportNamed text) ↔ L.pattern.Occurs [] text := by
  obtain ⟨ps, hold, hnew, hall, -⟩ :=
    K.cuts.exists_pieces (scans_matchesIn K.isPlain_pattern K.isSolid_pattern text)
  rw [replaceAll_eq, ← hnew, (K.steady L).occurs_newText_iff hall rfl, ← hold,
    occurs_oldText_iff (K.steady L).solid _ hall]
  intro b o n qs hQ _ u v huv hv hfits
  have hopens := (fits_pattern_iff.1 hfits).2
  cases u with
  | nil =>
      obtain rfl : o = v := huv
      exact not_opens_old hne hQ hopens
  | cons c u =>
      obtain ⟨⟨o', rfl, hless⟩, -⟩ := hQ.eq_cons
      obtain ⟨rfl, ho'⟩ := List.cons.inj huv
      exact not_opens_of_exportless (ho' ▸ hless) hv hopens

/-! ### The rule for a kind -/

theorem exportNamed_append_ne {K : Kind} {b w r : Text} {k : Captures}
    (h : K.pattern.Takes b w r k) (z : Text) : exportNamed (.taken b w r k) ++ z ≠ w ++ r := by
  obtain ⟨s, t, d, rfl, hs, -, hd, hnamed⟩ := takes_pattern h
  obtain ⟨c, d, rfl, hc⟩ := exists_initial_of_declares hd
  rw [hnamed]
  intro heq
  have hblank : [' '] ++ c :: (d ++ z) = s ++ 'd' :: ("efault".toList ++ t ++ c :: d ++ r) := by
    simpa using heq
  obtain ⟨-, rfl, -⟩ := Spaces.append_inj (by simp; decide) hs.1 (K.initials_ne c hc).1
    (by decide) hblank
  exact (K.initials_ne 'd' hc).2.1 rfl

/-- The rule for a kind fires where a default export of the kind is found, as long as the
text has the words with a single space between them. -/
theorem fires_declarationRule_iff {K : Kind} {kind : String} {text : Text} :
    (declarationRule kind K.declaration).toRule.fires text = true ↔
      Text.occurs "export default".toList text = true ∧ K.pattern.Occurs [] text := by
  rw [← Trigger.isMet_requiring]
  exact Substitution.fires_iff_occurs K.isPlain_pattern K.isSolid_pattern
    fun b w r k h => exportNamed_append_ne h

end Kind

end CodeMigration.NamedExports
