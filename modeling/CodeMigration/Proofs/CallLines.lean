import CodeMigration.Proofs.WrappedClients

/-!
# CodeMigration.Proofs.CallLines

What the rule for calls makes of a text line by line. A line that declares a name by a call of
the factory becomes two lines, and a line without such a call stays as it is, whatever other
lines are around it (`callSite_by_lines`).

A declaration may go over several lines, so it could begin on a line without a call and end on
one with a call. But then it would go on over the line break before a declaration, and no
declaration does (`never_broken`). So nothing is found on the lines without a call
(`not_fits_further`), and on each of the others the call is found where the line begins
(`scans_of_callLine`).
-/

namespace CodeMigration

namespace Text

/-! ### Texts of several lines -/

/-- The lines one after another, with a line feed before each of them. -/
def behind (lines : List Text) : Text := lines.flatMap ('\n' :: ·)

@[simp] theorem behind_nil : behind [] = [] := rfl

@[simp] theorem behind_cons (line : Text) (lines : List Text) :
    behind (line :: lines) = '\n' :: (line ++ behind lines) := rfl

@[simp] theorem behind_append (lines more : List Text) :
    behind (lines ++ more) = behind lines ++ behind more := List.flatMap_append

theorem intercalate_cons (line : Text) (lines : List Text) :
    ['\n'].intercalate (line :: lines) = line ++ behind lines := by
  induction lines generalizing line with
  | nil => simp [List.intercalate]
  | cons next lines ih =>
      rw [behind_cons, ← ih next]
      simp [List.intercalate]

theorem intercalate_append {lines : List Text} (hlines : lines ≠ []) (more : List Text) :
    ['\n'].intercalate (lines ++ more) = ['\n'].intercalate lines ++ behind more := by
  cases lines with
  | nil => exact absurd rfl hlines
  | cons line lines => simp [intercalate_cons]

theorem behind_eq {lines : List Text} (hlines : lines ≠ []) :
    behind lines = '\n' :: ['\n'].intercalate lines := by
  cases lines with
  | nil => exact absurd rfl hlines
  | cons line lines => rw [intercalate_cons, behind_cons]

theorem occurs_right_eq_false {w u v : Text} (h : occurs w (u ++ v) = false) :
    occurs w v = false := by
  rw [Bool.eq_false_iff] at h ⊢
  intro hocc
  obtain ⟨x, y, rfl⟩ := occurs_iff.1 hocc
  exact h (occurs_iff.2 ⟨u ++ x, y, by simp⟩)

/-- A word without a line feed that stands in two lines together stands in one of them. -/
theorem occurs_append_newline {w u v : Text} (hw : '\n' ∉ w)
    (h : occurs w (u ++ '\n' :: v) = true) : occurs w u = true ∨ occurs w v = true := by
  obtain ⟨x, y, hxy⟩ := occurs_iff.1 h
  rw [List.append_assoc] at hxy
  rcases List.append_eq_append_iff.1 hxy with ⟨z, rfl, hz⟩ | ⟨z, rfl, hz⟩
  · cases z with
    | cons c z => exact .inr (occurs_iff.2 ⟨z, y, by simpa using (List.cons.inj hz).2⟩)
    | nil =>
        cases w with
        | nil => exact .inl (occurs_iff.2 ⟨u, [], by simp⟩)
        | cons c w =>
            obtain ⟨rfl, -⟩ := List.cons.inj hz
            exact absurd List.mem_cons_self hw
  · rcases List.append_eq_append_iff.1 hz with ⟨t, rfl, ht⟩ | ⟨t, rfl, ht⟩
    · exact .inl (occurs_iff.2 ⟨x, t, by simp⟩)
    · cases t with
      | nil => exact .inl (occurs_iff.2 ⟨x, [], by simp⟩)
      | cons c t =>
          obtain ⟨rfl, -⟩ := List.cons.inj ht
          exact absurd (by simp) hw

end Text

namespace TypedClient

open Lexeme Pattern

/-! ### Lines with a call -/

/-- The line that declares a name, with single blanks between its words. -/
def declaringLine (indent keyword name value : Text) (semicolon : Bool) : Text :=
  indent ++ keyword ++ ' ' :: name ++ " = ".toList ++ value ++ if semicolon then [';'] else []

/-- A line that declares a name, other than that of the raw value, by a call of the factory. -/
structure CallLine (settings : TypedClientSettings) where
  /-- The indentation. -/
  indent : Text
  /-- The word that begins the declaration. -/
  keyword : Text
  /-- The declared name. -/
  name : Text
  /-- Is the value awaited? -/
  awaited : Bool
  /-- The arguments of the call. -/
  arguments : Text
  /-- Is there a semicolon behind the call? -/
  semicolon : Bool
  /-- What else is on the line. -/
  rest : Text
  lineBlanks_indent : LineBlanks indent
  keyword_mem : keyword ∈ keywords
  identifier_name : Identifier name
  name_ne : name ≠ settings.intermediate.toList
  arguments_free : ∀ c ∈ arguments, c ∉ ['(', ')', '\n']
  newline_not_mem : '\n' ∉ rest
  head?_rest : semicolon = false → rest.head? ≠ some ';'

namespace CallLine

variable {settings : TypedClientSettings} (line : CallLine settings)

/-- The word that awaits the value, with the blank behind it. -/
def await : Text := if line.awaited then "await ".toList else []

theorem awaitWord_await : AwaitWord line.await := by
  unfold await
  split
  · exact .inr ⟨[' '], rfl, spaces1_blank⟩
  · exact .inl rfl

/-- The call of the factory. -/
def value : Text :=
  line.await ++ settings.factory.toList ++ '(' :: line.arguments ++ [')']

/-- The line as it is written. -/
def text : Text :=
  declaringLine line.indent line.keyword line.name line.value line.semicolon ++ line.rest

/-- The two lines that should stand in its place: the first declares the raw value, and the
second the old name by a call of the wrapper. -/
def rewritten : List Text :=
  [declaringLine line.indent line.keyword settings.intermediate.toList line.value line.semicolon,
   declaringLine line.indent line.keyword line.name
     (settings.wrapper.toList ++ '(' :: settings.intermediate.toList ++ [')']) line.semicolon ++
     line.rest]

/-- The part of the line up to the sign of equality. -/
def header : Header where
  indent := line.indent
  keyword := line.keyword
  gap := [' ']
  name := line.name
  nameGap := [' ']
  lineBlanks_indent := line.lineBlanks_indent
  keyword_mem := line.keyword_mem
  spaces1_gap := spaces1_blank
  identifier_name := line.identifier_name
  spaces_nameGap := spaces_blank

/-- The call on the line. -/
def call : Call settings.factory.toList where
  gap := [' ']
  await := line.await
  arguments := line.arguments
  spaces_gap := spaces_blank
  awaitWord_await := line.awaitWord_await
  arguments_free := line.arguments_free

/-- The semicolon behind the call, if there is one. -/
def ending : Text := if line.semicolon then [';'] else []

theorem semicolon_ending : Semicolon line.ending := by
  unfold ending
  split
  · exact .inr rfl
  · exact .inl rfl

/-- The line up to the end of the declaration. -/
def declared : Text := line.header.text ++ (line.call.text ++ line.ending)

theorem text_eq : line.text = line.declared ++ line.rest := by
  simp [text, declared, declaringLine, value, header, call, ending, Header.text, Call.text]

end CallLine

/-- A line of a text in which all calls of the factory are on lines of their own. -/
inductive SourceLine (settings : TypedClientSettings)
  /-- A line without a call of the factory. -/
  | other (text : Text) (newline_not_mem : '\n' ∉ text)
      (no_call : Text.occurs (settings.factory.toList ++ ['(']) text = false)
  /-- A line that declares a name by such a call. -/
  | call (line : CallLine settings)

namespace SourceLine

variable {settings : TypedClientSettings}

/-- The line as it is written. -/
def text : SourceLine settings → Text
  | other text _ _ => text
  | call line => line.text

/-- The lines that should stand in its place. -/
def rewritten : SourceLine settings → List Text
  | other text _ _ => [text]
  | call line => line.rewritten

/-- The lines as they are written, with a line feed before each of them. -/
def further (lines : List (SourceLine settings)) : Text := Text.behind (lines.map text)

@[simp] theorem further_nil : further ([] : List (SourceLine settings)) = [] := rfl

@[simp] theorem further_cons (line : SourceLine settings) (lines : List (SourceLine settings)) :
    further (line :: lines) = '\n' :: (line.text ++ further lines) := rfl

theorem rewritten_ne_nil (line : SourceLine settings) : line.rewritten ≠ [] := by
  cases line <;> exact List.cons_ne_nil _ _

end SourceLine

/-! ### Where nothing is found -/

/-- No declaration begins with a line break. -/
theorem not_fits_newline {factory b a : Text} : ¬ (declaration factory).Fits b ('\n' :: a) := by
  intro h
  obtain ⟨-, d, c, r, heq⟩ := fits_declaration_iff.1 h
  have hstart : '\n' :: a = (d.indent ++ d.keyword) ++
      (d.gap ++ (d.name ++ d.nameGap ++ ['=']) ++ (c.text ++ r)) := by
    rw [heq, Header.text]
    simp
  obtain ⟨x, v, hx, -⟩ := identifier_of_mem_keywords d.keyword_mem
  obtain ⟨y, z, hy⟩ := List.exists_cons_of_ne_nil (l := d.indent ++ d.keyword) (by simp [hx])
  rw [hy] at hstart
  obtain ⟨rfl, -⟩ := List.cons.inj hstart
  exact d.not_mem_newline_keyword (by simp [hy])

/-- A text without a call does not begin with a declaration. -/
theorem declaration_ne {factory v : Text} (hv : Text.occurs (factory ++ ['(']) v = false)
    (d : Header) (c : Call factory) (r : Text) : d.text ++ (c.text ++ r) ≠ v := by
  rintro rfl
  refine Bool.eq_false_iff.1 hv (Text.occurs_iff.2
    ⟨d.text ++ (c.gap ++ c.await), c.arguments ++ ')' :: r, ?_⟩)
  simp [Call.text]

/-- No declaration begins on a line behind another. -/
theorem not_fits_rest {settings : TypedClientSettings} {line : CallLine settings}
    {b a u v : Text} (huv : line.rest = u ++ v) :
    ¬ (declaration settings.factory.toList).Fits (u.reverse ++ (line.declared.reverse ++ b)) a := by
  rcases List.eq_nil_or_concat' u with rfl | ⟨u, z, rfl⟩
  · obtain ⟨x, hx, hne⟩ := line.semicolon_ending.head?_reverse line.call
      (line.header.text.reverse ++ b)
    exact not_fits_of_head? (by simpa [CallLine.declared] using hx) hne
  · refine not_fits_of_head? (x := z) (by simp) ?_
    intro hz
    exact line.newline_not_mem (by simp [huv, hz])

theorem head?_rest_further {settings : TypedClientSettings} (line : CallLine settings)
    (lines : List (SourceLine settings)) (hsemicolon : line.semicolon = false) :
    (line.rest ++ SourceLine.further lines).head? ≠ some ';' := by
  have hrest := line.head?_rest hsemicolon
  cases hcases : line.rest with
  | nil => cases lines <;> simp
  | cons x rest => simpa [hcases] using hrest

/-- The preferred match takes the semicolon if there is one. -/
theorem stopsAt_declaration (factory : Text) :
    (declaration factory).StopsAt fun place =>
      place.before.head? = some ';' ∨ place.after.head? ≠ some ';' :=
  ((stopsAt_optional ';').group semicolonGroup).seqs lineStart
    [.group indentGroup lineBlanks,
     .group keywordGroup (.alts [.literal "const", .literal "let", .literal "var"]), blanks1,
     .group nameGroup identifier, blanks, .literal "=", blanks,
     .optional (.group awaitGroup (.seq (.literal "await") blanks1)), .word factory, .literal "(",
     .group argumentsGroup (.many (.noneOf ['(', ')', '\n'])), .literal ")"]

section

variable {settings : TypedClientSettings} (hn : WellNamed settings)

include hn

/-- A declaration does not begin in a text without a call, whatever lines are behind it. -/
theorem not_fits_further {v : Text} (hv : Text.occurs (settings.factory.toList ++ ['(']) v = false)
    (lines : List (SourceLine settings)) (b : Text) :
    ¬ (declaration settings.factory.toList).Fits b (v ++ SourceLine.further lines) := by
  have hnewline : '\n' ∉ settings.factory.toList ++ ['('] := by
    simp [not_mem_newline_of_identifier hn.factory]
  induction lines generalizing v with
  | nil =>
      intro h
      obtain ⟨-, d, c, r, heq⟩ := fits_declaration_iff.1 h
      exact declaration_ne hv d c r (by simpa using heq.symm)
  | cons line lines ih =>
      cases line with
      | other text _ hcall =>
          -- Both lines together are without a call, since no call goes over a line break.
          have hboth :
              Text.occurs (settings.factory.toList ++ ['(']) (v ++ '\n' :: text) = false := by
            rw [Bool.eq_false_iff]
            intro hocc
            rcases Text.occurs_append_newline hnewline hocc with h | h
            · simp [hv] at h
            · simp [hcall] at h
          simpa [SourceLine.text] using ih hboth
      | call line =>
          intro h
          obtain ⟨-, d, c, r, heq⟩ := fits_declaration_iff.1 h
          have htext : v ++ '\n' :: (line.header.text ++ (line.call.text ++ line.ending ++
              line.rest ++ SourceLine.further lines)) = d.text ++ c.text ++ r := by
            rw [List.append_assoc (Header.text d), ← heq]
            simp [SourceLine.text, line.text_eq, CallLine.declared]
          rcases List.append_eq_append_iff.1 htext with ⟨w, hw, hrest⟩ | ⟨w, rfl, -⟩
          · cases w with
            | nil => exact declaration_ne hv d c [] (by simpa using hw)
            | cons x w =>
                exact never_broken hn.factory d c v (x :: w) r hw (List.cons_ne_nil x w)
                  ⟨line.header, _, hrest.symm⟩
          · exact declaration_ne hv d c w (List.append_assoc _ _ _).symm

/-! ### Where a call is found -/

/-- The search finds the call where the line begins, with its semicolon, and replaces it by two
lines. -/
theorem scans_of_callLine (line : CallLine settings) {b r : Text} {ms : List Match}
    (hline : ∀ a, Anchor.lineStart.holds (.between b a) = true)
    (hr : line.semicolon = false → r.head? ≠ some ';')
    (h : Scans (declaration settings.factory.toList) b (line.declared ++ r) ms) :
    ∃ k ms', ms = .taken b line.declared r k :: ms' ∧
      Scans (declaration settings.factory.toList) (line.declared.reverse ++ b) r ms' ∧
      wrapCall settings (.taken b line.declared r k) ++ line.rest =
        ['\n'].intercalate line.rewritten := by
  have hfits : (declaration settings.factory.toList).Fits b (line.declared ++ r) :=
    fits_declaration_iff.2
      ⟨hline _, line.header, line.call, line.ending ++ r, by simp [CallLine.declared]⟩
  obtain ⟨w, t, k, ms', heq, hw, hm, hms, hs⟩ := h.of_fits hfits
  obtain ⟨d, c, e, hwords, he, -, -, hwrapped⟩ := exists_of_takes hn hw
  have htext : line.header.text ++ (line.call.text ++ (line.ending ++ r)) =
      d.text ++ (c.text ++ (e ++ t)) := by
    simpa [CallLine.declared, hwords] using heq
  obtain ⟨rfl, hcall⟩ := Header.eq_of_append htext
  obtain ⟨rfl, hend⟩ := Call.eq_of_append hn.factory hcall
  have hstop := (stopsAt_declaration _).stop hm
  -- Both ends are clear from the text, but the pattern could leave the semicolon.
  have hboth : line.ending = e ∧ r = t := by
    unfold CallLine.ending at hend ⊢
    cases hsemicolon : line.semicolon <;> simp only [hsemicolon] at hend <;>
      rcases he with rfl | rfl
    · exact ⟨rfl, hend⟩
    · obtain rfl : r = ';' :: t := hend
      exact absurd rfl (hr hsemicolon)
    · obtain rfl : ';' :: r = t := hend
      simp [hwords, Call.text] at hstop
    · exact ⟨rfl, (List.cons.inj hend).2⟩
  obtain ⟨rfl, rfl⟩ := hboth
  obtain rfl : w = line.declared := hwords
  refine ⟨k, ms', hms, hs, ?_⟩
  rw [hwrapped line.name_ne]
  simp [CallLine.rewritten, declaringLine, CallLine.value, CallLine.header, CallLine.call,
    CallLine.ending, Header.text, Header.rename, Call.text, Call.spaced, Call.ofName]

/-! ### One line and many -/

/-- Where a line begins, the search goes on to its end, and what is put out are the lines that
should stand in its place. -/
theorem scans_of_sourceLine (line : SourceLine settings) (lines : List (SourceLine settings))
    {b : Text} {ms : List Match} (hline : ∀ a, Anchor.lineStart.holds (.between b a) = true)
    (h : Scans (declaration settings.factory.toList) b (line.text ++ SourceLine.further lines) ms) :
    ∃ b' ms', Scans (declaration settings.factory.toList) b' (SourceLine.further lines) ms' ∧
      spliceFrom (wrapCall settings) (.between b (line.text ++ SourceLine.further lines)) ms =
        ['\n'].intercalate line.rewritten ++
          spliceFrom (wrapCall settings) (.between b' (SourceLine.further lines)) ms' := by
  cases line with
  | other text _ hcall =>
      have hno : ∀ u v, text = u ++ v → v ≠ [] → ¬ (declaration settings.factory.toList).Fits
          (u.reverse ++ b) (v ++ SourceLine.further lines) := by
        intro u v huv _
        rw [huv] at hcall
        exact not_fits_further hn (Text.occurs_right_eq_false hcall) lines _
      refine ⟨text.reverse ++ b, ms, h.of_append hno, ?_⟩
      simpa [SourceLine.text, SourceLine.rewritten, Text.intercalate_cons] using
        h.spliceFrom_append hno
  | call line =>
      have htext : (SourceLine.call line).text ++ SourceLine.further lines =
          line.declared ++ (line.rest ++ SourceLine.further lines) := by
        simp [SourceLine.text, line.text_eq]
      rw [htext] at h ⊢
      obtain ⟨k, ms', rfl, hs, hwrapped⟩ := scans_of_callLine hn line hline
        (head?_rest_further line lines) h
      have hno : ∀ u v, line.rest = u ++ v → v ≠ [] → ¬ (declaration settings.factory.toList).Fits
          (u.reverse ++ (line.declared.reverse ++ b)) (v ++ SourceLine.further lines) :=
        fun u v huv _ => not_fits_rest huv
      refine ⟨_, ms', hs.of_append hno, ?_⟩
      rw [spliceFrom_found, hs.spliceFrom_append hno, ← List.append_assoc, hwrapped]
      rfl

/-- Behind a line the search goes on over the line break and all further lines. -/
theorem spliceFrom_further (lines : List (SourceLine settings)) {b : Text} {ms : List Match}
    (h : Scans (declaration settings.factory.toList) b (SourceLine.further lines) ms) :
    spliceFrom (wrapCall settings) (.between b (SourceLine.further lines)) ms =
      Text.behind (lines.flatMap SourceLine.rewritten) := by
  induction lines generalizing b ms with
  | nil =>
      rw [Scans.eq_nil h]
      rfl
  | cons line lines ih =>
      rw [SourceLine.further_cons] at h ⊢
      have hs := h.of_not_fits not_fits_newline
      have hline : ∀ a, Anchor.lineStart.holds (.between ('\n' :: b) a) = true := fun _ => rfl
      obtain ⟨b', ms', hs', hsplice⟩ := scans_of_sourceLine hn line lines hline hs
      rw [spliceFrom_skip fun m hm => hs.le_start m hm, hsplice, ih hs', List.flatMap_cons,
        Text.behind_append, Text.behind_eq line.rewritten_ne_nil]
      rfl

/-- From the start of the text, the rule for calls puts out for each line what should stand in
its place. -/
theorem apply_callSite (lines : List (SourceLine settings)) :
    (callSite settings).apply (['\n'].intercalate (lines.map SourceLine.text)) =
      ['\n'].intercalate (lines.flatMap SourceLine.rewritten) := by
  have hscan := scans_matchesIn (isPlain_declaration settings.factory.toList)
    (isSolid_declaration settings.factory.toList)
  show spliceFrom (wrapCall settings) (.between [] (['\n'].intercalate (lines.map SourceLine.text)))
    ((declaration settings.factory.toList).matchesIn _) = _
  cases lines with
  | nil => exact spliceFrom_further hn [] (hscan [])
  | cons line lines =>
      have htext : ['\n'].intercalate ((line :: lines).map SourceLine.text) =
          line.text ++ SourceLine.further lines := Text.intercalate_cons _ _
      have hline : ∀ a, Anchor.lineStart.holds (.between [] a) = true := fun _ => rfl
      obtain ⟨b, ms, hs, hsplice⟩ := scans_of_sourceLine hn line lines hline (hscan _)
      rw [htext, hsplice, spliceFrom_further hn lines hs, List.flatMap_cons,
        Text.intercalate_append line.rewritten_ne_nil]

end

/-- The rule for calls under the usual settings, line by line: in place of each line with a call
stand its two lines, and every other line stays as it is. This is so for the substitution itself,
and for the rule, which looks at its trigger first. -/
theorem callSite_by_lines (lines : List (SourceLine {})) :
    (callSite {}).apply (['\n'].intercalate (lines.map SourceLine.text)) =
        ['\n'].intercalate (lines.flatMap SourceLine.rewritten) ∧
      (callSite {}).toRule.run (['\n'].intercalate (lines.map SourceLine.text)) =
        ['\n'].intercalate (lines.flatMap SourceLine.rewritten) := by
  have happly := apply_callSite wellNamed_default lines
  have hrun : (callSite {}).toRule.run (['\n'].intercalate (lines.map SourceLine.text)) =
      (callSite {}).apply (['\n'].intercalate (lines.map SourceLine.text)) :=
    Substitution.run_eq_apply (isPlain_declaration _) (fun _ => isMet_callSite) _
  exact ⟨happly, hrun.trans happly⟩

example : (callSite {}).apply
    "const a = createClient()\n// between\n\tlet b = await createClient(x, y); go()".toList =
    ("const client = createClient()\nconst a = typed(client)\n// between\n" ++
      "\tlet client = await createClient(x, y);\n\tlet b = typed(client); go()").toList := by
  decide +kernel

end TypedClient

end CodeMigration
