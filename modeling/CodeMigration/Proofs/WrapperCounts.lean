import CodeMigration.Proofs.WrappedClients

/-!
# CodeMigration.Proofs.WrapperCounts

How many calls of the wrapper the rule for calls adds: one for each declaration of a name other
than that of the raw value, and it neither makes nor breaks any other (`callSite_wraps_once`).

What has to be seen is that no such call goes over a place where kept and new text meet. Before a
declaration there is a line break, behind it a bracket or a semicolon, and none of these stands
inside a call of the wrapper (`closedFor_wrappedCall`). So the calls can be counted piece by piece
(`Text.ClosedFor.occurrences_append`).
-/

namespace CodeMigration

namespace Text

/-! ### Counting a word -/

/-- The number of places in the text where the word begins, also inside another occurrence. -/
def occurrences (word : Text) : Text → Nat
  | [] => if word.isEmpty then 1 else 0
  | c :: rest => (if word.isPrefixOf (c :: rest) then 1 else 0) + occurrences word rest

/-- The text ends in a character that the word can only have at its own end. -/
def ClosedFor (word text : Text) : Prop := ∀ c ∈ text.getLast?, c ∉ word.dropLast

theorem closedFor_nil (word : Text) : ClosedFor word [] := by simp [ClosedFor]

theorem ClosedFor.tail {word u : Text} {c : Char} (h : ClosedFor word (c :: u)) :
    ClosedFor word u := by
  cases u with
  | nil => exact closedFor_nil word
  | cons d u => rwa [ClosedFor, List.getLast?_cons_cons] at h

/-- A word that begins in a closed text ends in it. -/
theorem ClosedFor.isPrefix_append_iff {word u v : Text} (h : ClosedFor word u) (hu : u ≠ []) :
    word <+: u ++ v ↔ word <+: u := by
  refine ⟨fun hprefix => ?_, fun hprefix => hprefix.trans (List.prefix_append u v)⟩
  obtain ⟨t, ht⟩ := hprefix
  rcases List.append_eq_append_iff.1 ht with ⟨s, rfl, -⟩ | ⟨s, rfl, -⟩
  · exact List.prefix_append word s
  · cases s with
    | nil => simp
    | cons x s =>
        have hlast := h _ (List.getLast?_eq_some_getLast hu)
        rw [List.dropLast_append_of_ne_nil (List.cons_ne_nil x s)] at hlast
        exact absurd (List.mem_append_left _ (List.getLast_mem hu)) hlast

/-- Behind a closed text the count starts anew. -/
theorem ClosedFor.occurrences_append {word u : Text} (h : ClosedFor word u) (hword : word ≠ [])
    (v : Text) : occurrences word (u ++ v) = occurrences word u + occurrences word v := by
  induction u with
  | nil => simp [occurrences, hword]
  | cons c u ih =>
      have hprefix := h.isPrefix_append_iff (v := v) (List.cons_ne_nil c u)
      simp only [List.cons_append] at hprefix
      simp only [List.cons_append, occurrences, List.isPrefixOf_iff_prefix, hprefix, ih h.tail]
      omega

theorem occurrences_eq_zero {word text : Text} {c : Char} (hword : c ∈ word) (htext : c ∉ text) :
    occurrences word text = 0 := by
  induction text with
  | nil => simp [occurrences, List.ne_nil_of_mem hword]
  | cons d text ih =>
      have hprefix : ¬ word <+: d :: text := fun h => htext (h.subset hword)
      rw [List.mem_cons, not_or] at htext
      simp [occurrences, List.isPrefixOf_iff_prefix, hprefix, ih htext.2]

/-- A word with a single mark stands at most once in a text with a single one. -/
theorem occurrences_of_mark {f z x y : Text} {c : Char} (hf : c ∉ f) (hx : c ∉ x) (hy : c ∉ y) :
    occurrences (f ++ c :: z) (x ++ c :: y) = if f <:+ x ∧ z <+: y then 1 else 0 := by
  have hne : ∀ {u : Text}, c ∉ u → ∀ d ∈ u, d ≠ c := fun hu d hd hdc => hu (hdc ▸ hd)
  have hprefix : ∀ {u : Text}, c ∉ u →
      (f ++ c :: z <+: u ++ c :: y ↔ f = u ∧ z <+: y) := by
    intro u hu
    constructor
    · intro h
      obtain ⟨t, ht⟩ := h
      obtain ⟨hfu, -, hzy⟩ := append_cons_inj (P := (· ≠ c)) (hne hf) (hne hu) (by simp) (by simp)
        ((List.append_assoc f _ t).symm.trans ht)
      exact ⟨hfu, t, hzy⟩
    · intro h
      obtain ⟨rfl, t, rfl⟩ := h
      exact ⟨t, by simp⟩
  induction x with
  | nil =>
      have hhead := hprefix (u := []) (by simp)
      simp only [List.nil_append] at hhead
      have hrest : occurrences (f ++ c :: z) y = 0 := occurrences_eq_zero (c := c) (by simp) hy
      simp [occurrences, List.isPrefixOf_iff_prefix, hhead, hrest]
  | cons d x ih =>
      have hhead := hprefix hx
      rw [List.mem_cons, not_or] at hx
      simp only [List.cons_append] at hhead
      simp only [List.cons_append, occurrences, List.isPrefixOf_iff_prefix, hhead, ih hx.2,
        List.suffix_cons_iff]
      by_cases heq : f = d :: x
      · have hsuffix : ¬ d :: x <:+ x := fun h => Nat.not_succ_le_self _ h.length_le
        simp [heq, hsuffix]
      · simp [heq]

end Text

namespace TypedClient

open Lexeme Pattern

/-! ### Calls of the wrapper in one declaration -/

theorem toList_wrappedCall (settings : TypedClientSettings) : (wrappedCall settings).toList =
    settings.wrapper.toList ++ '(' :: (settings.intermediate.toList ++ [')']) := by
  simp [wrappedCall]

theorem toList_wrappedCall_ne_nil (settings : TypedClientSettings) :
    (wrappedCall settings).toList ≠ [] := by
  simp [toList_wrappedCall]

theorem paren_not_mem_identifier {x : Text} (hx : Identifier x) : '(' ∉ x := fun hmem =>
  absurd (hx.forall_mem _ hmem) (by decide)

theorem paren_not_mem_spaces {s : Text} (hs : Spaces s) : '(' ∉ s := fun hmem =>
  absurd (hs _ hmem) (by decide)

theorem Header.paren_not_mem (d : Header) : '(' ∉ d.text := by
  have hindent := paren_not_mem_spaces d.lineBlanks_indent.spaces
  have hkeyword := paren_not_mem_identifier (identifier_of_mem_keywords d.keyword_mem)
  have hgap := paren_not_mem_spaces d.spaces1_gap.1
  have hname := paren_not_mem_identifier d.identifier_name
  have hnameGap := paren_not_mem_spaces d.spaces_nameGap
  simp [Header.text, hindent, hkeyword, hgap, hname, hnameGap]

theorem AwaitWord.paren_not_mem {a : Text} (ha : AwaitWord a) : '(' ∉ a := by
  rcases ha with rfl | ⟨s, rfl, hs⟩
  · simp
  · simp [paren_not_mem_spaces hs.1]

section

variable {settings : TypedClientSettings} (hn : WellNamed settings)

include hn

/-- A call of the wrapper does not go on over the end of a line or of a declaration. -/
theorem closedFor_wrappedCall {u : Text} {x : Char} (hlast : u.getLast? = some x)
    (hx : x ∈ ['\n', ')', ';']) : Text.ClosedFor (wrappedCall settings).toList u := by
  have hpart : identifierPart.contains x = false ∧ x ≠ '(' := by
    simp only [List.mem_cons, List.not_mem_nil, or_false] at hx
    rcases hx with rfl | rfl | rfl <;> decide
  intro c hc hmem
  obtain rfl : x = c := by simpa [hlast] using hc
  rw [toList_wrappedCall, ← List.cons_append, ← List.append_assoc, List.dropLast_concat,
    List.mem_append, List.mem_cons] at hmem
  rcases hmem with hmem | hmem | hmem
  · simp [hn.wrapper.forall_mem x hmem] at hpart
  · exact hpart.2 hmem
  · simp [hn.intermediate.forall_mem x hmem] at hpart

theorem closedFor_declaration {callee e : Text} (he : Semicolon e) (t : Text) (c : Call callee) :
    Text.ClosedFor (wrappedCall settings).toList (t ++ (c.text ++ e)) := by
  rcases he with rfl | rfl
  · have hlast : t ++ (c.text ++ []) =
        t ++ (c.gap ++ (c.await ++ (callee ++ '(' :: c.arguments))) ++ [')'] := by
      simp [Call.text]
    exact closedFor_wrappedCall hn (List.getLast?_eq_some_iff.2 ⟨_, hlast⟩) (by simp)
  · exact closedFor_wrappedCall hn (x := ';') (by simp) (by simp)

/-- A declaration by a call holds the call of the wrapper if it is the declaration's own. -/
theorem occurrences_declaration {callee e : Text} (hcallee : Identifier callee) (he : Semicolon e)
    (d : Header) (c : Call callee) :
    Text.occurrences (wrappedCall settings).toList (d.text ++ (c.text ++ e)) =
      if settings.wrapper.toList <:+ d.text ++ (c.gap ++ (c.await ++ callee)) ∧
        settings.intermediate.toList ++ [')'] <+: c.arguments ++ ')' :: e then 1 else 0 := by
  have htext : d.text ++ (c.text ++ e) =
      (d.text ++ (c.gap ++ (c.await ++ callee))) ++ '(' :: (c.arguments ++ ')' :: e) := by
    simp [Call.text]
  have hbefore : '(' ∉ d.text ++ (c.gap ++ (c.await ++ callee)) := by
    simp [d.paren_not_mem, paren_not_mem_spaces c.spaces_gap, c.awaitWord_await.paren_not_mem,
      paren_not_mem_identifier hcallee]
  have hbehind : '(' ∉ c.arguments ++ ')' :: e := by
    have harguments : '(' ∉ c.arguments := fun hmem => c.arguments_free _ hmem (by simp)
    rcases he with rfl | rfl <;> simp [harguments]
  rw [htext, toList_wrappedCall,
    Text.occurrences_of_mark (paren_not_mem_identifier hn.wrapper) hbefore hbehind]

/-- The second of the two declarations in place of one holds the call of the wrapper once. -/
theorem occurrences_wrapped {e : Text} (he : Semicolon e) (d : Header) :
    Text.occurrences (wrappedCall settings).toList (d.text ++
      ((Call.ofName settings.wrapper.toList hn.intermediate).text ++ e)) = 1 := by
  rw [occurrences_declaration hn hn.wrapper he, if_pos]
  refine ⟨⟨d.text ++ [' '], ?_⟩, ⟨e, ?_⟩⟩ <;> simp [Call.ofName]

variable (hlast : settings.wrapper.toList.getLast? ≠ settings.factory.toList.getLast?)

include hlast

/-- A declaration by a call of the factory does not hold the call of the wrapper. -/
theorem occurrences_raw {e : Text} (he : Semicolon e) (d : Header)
    (c : Call settings.factory.toList) :
    Text.occurrences (wrappedCall settings).toList (d.text ++ (c.text ++ e)) = 0 := by
  rw [occurrences_declaration hn hn.factory he, if_neg]
  intro hends
  obtain ⟨⟨t, ht⟩, -⟩ := hends
  obtain ⟨x, v, hwrapper, -⟩ := hn.wrapper
  obtain ⟨y, w, hfactory, -⟩ := hn.factory
  have hsame := congrArg List.getLast? ht
  rw [← List.append_assoc, ← List.append_assoc] at hsame
  rw [List.getLast?_append_of_ne_nil _ (by simp [hwrapper]),
    List.getLast?_append_of_ne_nil _ (by simp [hfactory])] at hsame
  exact hlast hsame

/-- The calls of the wrapper in what stands in place of a declaration. -/
theorem occurrences_wrapCall {b w r : Text} {k : Captures}
    (h : (declaration settings.factory.toList).Takes b w r k) :
    Text.ClosedFor (wrappedCall settings).toList w ∧
      Text.ClosedFor (wrappedCall settings).toList (wrapCall settings (.taken b w r k)) ∧
      Text.occurrences (wrappedCall settings).toList (wrapCall settings (.taken b w r k)) =
        Text.occurrences (wrappedCall settings).toList w +
          if (Match.taken b w r k).group nameGroup ≠ settings.intermediate.toList then 1
          else 0 := by
  have hword := toList_wrappedCall_ne_nil settings
  obtain ⟨d, c, e, hw, he, hgroup, hkept, hwrapped⟩ := exists_of_takes hn h
  have hclosed : Text.ClosedFor (wrappedCall settings).toList w := by
    rw [hw]
    exact closedFor_declaration hn he _ c
  rw [hgroup]
  by_cases hname : d.name = settings.intermediate.toList
  · rw [hkept hname]
    exact ⟨hclosed, hclosed, by simp [hname]⟩
  · -- Between the two lines there is a line break, so they are counted one by one.
    have hfirst := closedFor_declaration hn he (d.rename hn.intermediate).text c.spaced
    have hbreak : Text.ClosedFor (wrappedCall settings).toList ['\n'] :=
      closedFor_wrappedCall hn rfl (by simp)
    have hsplit : wrapCall settings (.taken b w r k) =
        (d.rename hn.intermediate).text ++ (c.spaced.text ++ e) ++ (['\n'] ++
          ((d.rename d.identifier_name).text ++
            ((Call.ofName settings.wrapper.toList hn.intermediate).text ++ e))) := by
      rw [hwrapped hname]
      rfl
    refine ⟨hclosed, ?_, ?_⟩
    · rw [hsplit, ← List.append_assoc, ← List.append_assoc]
      exact closedFor_declaration hn he _ _
    · rw [hsplit, hfirst.occurrences_append hword, hbreak.occurrences_append hword,
        occurrences_raw hn hlast he, occurrences_wrapped hn he, hw, occurrences_raw hn hlast he,
        Text.occurrences_eq_zero (c := '(') (by simp [toList_wrappedCall]) (by decide),
        if_pos hname]

/-! ### Calls of the wrapper in the whole text -/

/-- Each declaration of another name than that of the raw value adds a call of the wrapper. The
induction goes along with the search, and `u` is what it has passed over since the last
declaration: a call of the wrapper could begin there. -/
theorem occurrences_spliceFrom {b a : Text} {ms : List Match}
    (hscan : Scans (declaration settings.factory.toList) b a ms) :
    ∀ {u : Text}, u.reverse <+: b →
      Text.occurrences (wrappedCall settings).toList
          (u ++ spliceFrom (wrapCall settings) (.between b a) ms) =
        Text.occurrences (wrappedCall settings).toList (u ++ a) +
          ms.countP fun m => m.group nameGroup ≠ settings.intermediate.toList := by
  have hword := toList_wrappedCall_ne_nil settings
  induction hscan with
  | done => exact fun _ => rfl
  | @skip b a x ms _ hs ih =>
      intro u hb
      obtain ⟨t, rfl⟩ := hb
      have hprefix : (u ++ [x]).reverse <+: x :: (u.reverse ++ t) := ⟨t, by simp⟩
      rw [spliceFrom_skip fun m hm => hs.le_start m hm]
      simpa using ih hprefix
  | @found b w a k ms _ ht _ _ ih =>
      intro u hb
      -- The declaration begins a line, so what is before it is closed.
      have hclosed : Text.ClosedFor (wrappedCall settings).toList u := by
        obtain ⟨t, rfl⟩ := hb
        rcases List.eq_nil_or_concat' u with rfl | ⟨u, z, rfl⟩
        · exact Text.closedFor_nil _
        · have hhead : ((u ++ [z]).reverse ++ t).head? = some z := by simp
          obtain rfl := eq_newline_of_holds hhead (takes_declaration ht).1
          exact closedFor_wrappedCall hn (x := '\n') (by simp) (by simp)
      obtain ⟨hold, hnew, hcount⟩ := occurrences_wrapCall hn hlast ht
      have hrest := ih (u := []) List.nil_prefix
      simp only [List.nil_append] at hrest
      rw [spliceFrom_found, hclosed.occurrences_append hword, hclosed.occurrences_append hword,
        hold.occurrences_append hword, hnew.occurrences_append hword, hcount, hrest,
        List.countP_cons]
      simp only [decide_eq_true_eq]
      omega

end

/-- The rule for calls under the usual settings leaves nothing behind. In what it has made of a
text all calls of the factory declare the raw value, so the rule makes nothing else of it, and
there is one call of the wrapper more for each declaration of another name in the text. -/
theorem callSite_wraps_once (text : Text) :
    (∀ m ∈ (callSite {}).pattern.matchesIn ((callSite {}).apply text),
        m.group nameGroup = "client".toList) ∧
      (callSite {}).apply ((callSite {}).apply text) = (callSite {}).apply text ∧
      Text.occurrences "typed(client)".toList ((callSite {}).apply text) =
        Text.occurrences "typed(client)".toList text +
          ((callSite {}).pattern.matchesIn text).countP fun m =>
            m.group nameGroup ≠ "client".toList := by
  have hscan := scans_matchesIn (isPlain_declaration "createClient".toList)
    (isSolid_declaration "createClient".toList)
  have hclient : ∀ m ∈ (declaration "createClient".toList).matchesIn ((callSite {}).apply text),
      m.group nameGroup = "client".toList := group_eq_of_mem_matchesIn_apply wellNamed_default
  refine ⟨hclient, ?_, ?_⟩
  · exact spliceFrom_eq_self (hscan _) fun m hm => wrapCall_of_eq (hclient m hm)
  · exact occurrences_spliceFrom wellNamed_default (by decide) (hscan text) (u := [])
      List.nil_prefix

end TypedClient

end CodeMigration
