import CodeMigration.Proofs.ChainedCalls
import CodeMigration.Proofs.ExtendedImports

/-!
# CodeMigration.Proofs.CommentedLists

Import lists with comments in them. The rule for imports does not know of comments: it puts the
new name behind the last character of the list that is neither white space nor a comma at its
end. That is right where this character belongs to an entry or to a block comment. A line
comment there takes in the comma, and the name becomes part of the entry before it:

```text
before    { A,               after    { A,
            B // last                   B // last,
          } from 'm'                    typed
                                      } from 'm'
```

Nothing else goes wrong: where the list has not ended in a comment, its entries without comments
are those from before and the name (`ImportRule.keepsListAt_iff`).
-/

namespace CodeMigration

open TypedClient (Layer)

/-! ### Texts without their comments -/

/-- The text without its comments. The line feed behind a line comment is not part of it. -/
def uncommented : Layer → Text → Text
  | _, [] => []
  | .code, '/' :: '/' :: rest => uncommented .lineComment rest
  | .code, '/' :: '*' :: rest => uncommented .blockComment rest
  | .code, c :: rest => c :: uncommented .code rest
  | .lineComment, c :: rest =>
    if c == '\n' then c :: uncommented .code rest else uncommented .lineComment rest
  | .blockComment, '*' :: '/' :: rest => uncommented .code rest
  | .blockComment, _ :: rest => uncommented .blockComment rest

/-- What a reading of the text is in behind it. -/
def layerBehind : Layer → Text → Layer
  | layer, [] => layer
  | .code, '/' :: '/' :: rest => layerBehind .lineComment rest
  | .code, '/' :: '*' :: rest => layerBehind .blockComment rest
  | .code, _ :: rest => layerBehind .code rest
  | .lineComment, c :: rest => layerBehind (if c == '\n' then .code else .lineComment) rest
  | .blockComment, '*' :: '/' :: rest => layerBehind .code rest
  | .blockComment, _ :: rest => layerBehind .blockComment rest

/-- The first character of the text does not make a mark of a comment with the one before it. -/
def Detached (y : Text) : Prop := ∀ c ∈ y.head?, c ≠ '/' ∧ c ≠ '*'

theorem detached_cons {c : Char} {y : Text} (hslash : c ≠ '/') (hstar : c ≠ '*') :
    Detached (c :: y) := by
  intro d hd
  obtain rfl := Option.some.inj hd
  exact ⟨hslash, hstar⟩

theorem Detached.not_append_eq_cons {y : Text} (hy : Detached y) {x : Text} {c : Char}
    (hc : c = '/' ∨ c = '*') (hx : ∀ r, x = c :: r → False) : ∀ r, x ++ y = c :: r → False := by
  intro r h
  cases x with
  | nil =>
      have hhead : c ∈ y.head? := by
        rw [show y = c :: r from h]
        rfl
      rcases hc with rfl | rfl
      · exact (hy _ hhead).1 rfl
      · exact (hy _ hhead).2 rfl
  | cons d x =>
      obtain ⟨rfl, -⟩ := List.cons.inj h
      exact hx x rfl

/-- What a text is without its comments depends on what stands before it only by what the
reading is in there. -/
theorem uncommented_append (layer : Layer) (x : Text) {y : Text} (hy : Detached y) :
    uncommented layer (x ++ y) = uncommented layer x ++ uncommented (layerBehind layer x) y := by
  fun_induction layerBehind layer x with
  | case1 layer => cases layer <;> rfl
  | case2 rest ih => exact ih
  | case3 rest ih => exact ih
  | case4 c rest hline hblock ih =>
      have hline' : ∀ r, c = '/' → rest ++ y = '/' :: r → False := fun r hc =>
        hy.not_append_eq_cons (.inl rfl) (fun r => hline r hc) r
      have hblock' : ∀ r, c = '/' → rest ++ y = '*' :: r → False := fun r hc =>
        hy.not_append_eq_cons (.inr rfl) (fun r => hblock r hc) r
      rw [List.cons_append, uncommented.eq_4 _ _ hline' hblock', uncommented.eq_4 _ _ hline hblock,
        ih, List.cons_append]
  | case5 c rest ih =>
      rw [List.cons_append, uncommented, uncommented]
      split
      · next hc => simpa [hc] using ih
      · next hc => simpa [hc] using ih
  | case6 rest ih => exact ih
  | case7 c rest hend ih =>
      have hend' : ∀ r, c = '*' → rest ++ y = '/' :: r → False := fun r hc =>
        hy.not_append_eq_cons (.inl rfl) (fun r => hend r hc) r
      rw [List.cons_append, uncommented.eq_7 _ _ hend', uncommented.eq_7 _ _ hend, ih]

theorem uncommented_of_not_mem {x : Text} (h : '/' ∉ x) : uncommented .code x = x := by
  induction x with
  | nil => rfl
  | cons c x ih =>
      rw [List.mem_cons, not_or] at h
      rw [uncommented.eq_4 _ _ (fun _ hc => absurd hc.symm h.1) (fun _ hc => absurd hc.symm h.1),
        ih h.2]

theorem layerBehind_of_not_mem {x : Text} (h : '/' ∉ x) : layerBehind .code x = .code := by
  induction x with
  | nil => rfl
  | cons c x ih =>
      rw [List.mem_cons, not_or] at h
      rw [layerBehind.eq_4 _ _ (fun _ hc => absurd hc.symm h.1) (fun _ hc => absurd hc.symm h.1),
        ih h.2]

namespace ImportRule

open Text Lexeme

/-! ### Names behind comments -/

/-- White space, and commas among it, as it stands behind the last entry of a list. -/
def Closes (z : Text) : Prop := ∀ c ∈ z, c = ',' ∨ Unicode.isSpace c = true

theorem closes_of_spaces {s : Text} (hs : Spaces s) : Closes s := fun c hc => .inr (hs c hc)

theorem closes_close (body : Text) : Closes (listComma body ++ trailingSpace body) := by
  intro c hc
  rcases List.mem_append.1 hc with hcomma | hspace
  · unfold listComma at hcomma
    split at hcomma
    · exact .inl (List.mem_singleton.1 hcomma)
    · cases hcomma
  · exact .inr (spaces_trailingSpace body c hspace)

theorem Closes.slash_not_mem {z : Text} (hz : Closes z) : '/' ∉ z := by
  intro hmem
  rcases hz _ hmem with hcomma | hspace
  · exact absurd hcomma (by decide)
  · exact absurd hspace (by decide)

theorem Closes.detached {z : Text} (hz : Closes z) : Detached z := by
  intro c hc
  rcases hz c (List.mem_of_mem_head? hc) with rfl | hspace
  · decide
  · exact ⟨fun h => absurd (h ▸ hspace) (by decide), fun h => absurd (h ▸ hspace) (by decide)⟩

/-- The name is the last entry of the new list, the others are those of the old one, and the
comma before the name is not in a comment. Comments do not count as parts of entries. -/
structure AddsEntry (name old new : Text) : Prop where
  /-- The name follows the old entries. -/
  entries_eq : entries (uncommented .code new) = entries (uncommented .code old) ++ [name]
  /-- The comma before the name is code. -/
  comma_in_code : ∀ front gap close, new = front ++ ',' :: (gap ++ name ++ close) → Spaces gap →
    Closes close → layerBehind .code front = .code

/-- The name is a word of code: it holds nothing that parts entries or begins a comment. -/
structure Bare (name : Text) : Prop where
  /-- There is a name. -/
  ne_nil : name ≠ []
  /-- The name has no white space in it and no comma. -/
  plain : ∀ c ∈ name, Unicode.isSpace c = false ∧ c ≠ ','
  /-- The name has no slash in it. -/
  slash_not_mem : '/' ∉ name

theorem bare_of_identifier {name : Text} (h : Identifier name) : Bare name where
  ne_nil := by
    obtain ⟨x, v, rfl, -, -⟩ := h
    exact List.cons_ne_nil x v
  plain := by
    intro c hc
    refine ⟨isSpace_of_identifierPart (h.forall_mem c hc), ?_⟩
    rintro rfl
    exact absurd (h.forall_mem _ hc) (by decide)
  slash_not_mem := fun hmem => absurd (h.forall_mem _ hmem) (by decide)

section

variable {name : Text} (hname : Bare name)

include hname

/-- Where the name at the end of a list begins, and the comma before it, is clear from the
list. -/
theorem eq_of_append_name {x x' gap gap' z z' : Text} (hgap : Spaces gap) (hgap' : Spaces gap')
    (hz : Closes z) (hz' : Closes z')
    (h : x ++ ',' :: (gap ++ name ++ z) = x' ++ ',' :: (gap' ++ name ++ z')) : x = x' := by
  obtain ⟨last, front, hrev⟩ := List.exists_cons_of_ne_nil
    fun hnil => hname.ne_nil (List.reverse_eq_nil_iff.1 hnil)
  have hlast : ¬ (last = ',' ∨ Unicode.isSpace last = true) := by
    have hmem : last ∈ name := List.mem_reverse.1 (hrev ▸ List.mem_cons_self)
    obtain ⟨hspace, hcomma⟩ := hname.plain last hmem
    simp [hspace, hcomma]
  -- Read from the end, the list has commas and space up to the name, and space up to its comma.
  have hback : z.reverse ++ last :: (front ++ (gap.reverse ++ ',' :: x.reverse)) =
      z'.reverse ++ last :: (front ++ (gap'.reverse ++ ',' :: x'.reverse)) := by
    simpa [hrev] using congrArg List.reverse h
  obtain ⟨-, -, hbefore⟩ := append_cons_inj (P := fun c => c = ',' ∨ Unicode.isSpace c = true)
    (fun c hc => hz c (List.mem_reverse.1 hc)) (fun c hc => hz' c (List.mem_reverse.1 hc)) hlast
    hlast hback
  obtain ⟨-, -, hx⟩ := Spaces.append_inj (fun c hc => hgap c (List.mem_reverse.1 hc))
    (fun c hc => hgap' c (List.mem_reverse.1 hc)) (by decide) (by decide)
    (List.append_cancel_left hbefore)
  exact List.reverse_injective hx

/-- A name in a list without other entries. -/
theorem addsEntry_of_isBlank {body : Text} (h : isBlank (listHead body) = true) :
    AddsEntry name body (extendList name body) := by
  have hspaces : Spaces (listHead body) := List.all_eq_true.1 h
  have hlist : extendList name body = [' '] ++ name ++ [' '] := by
    rw [extendList_eq, if_pos h]
    rfl
  have hslash : '/' ∉ [' '] ++ name ++ [' '] := by simp [hname.slash_not_mem]
  have hslashOld : '/' ∉ body := by
    rw [← listHead_append body, List.append_assoc, List.mem_append, not_or]
    exact ⟨(closes_of_spaces hspaces).slash_not_mem, (closes_close body).slash_not_mem⟩
  constructor
  · rw [hlist, uncommented_of_not_mem hslash, uncommented_of_not_mem hslashOld,
      entries_append_spaces _ spaces_blank, ← entries_listHead body, entries_spaces hspaces]
    exact entries_name spaces_blank hname.ne_nil hname.plain
  · intro front gap close heq _ _
    have hcomma : ',' ∉ extendList name body := by
      rw [hlist]
      have hnot : ',' ∉ name := fun hmem => (hname.plain ',' hmem).2 rfl
      simp [hnot]
    exact absurd (by simp [heq]) hcomma

/-- A name is added to a list as it should be just if the list has not ended in a comment. -/
theorem addsEntry_extendList_iff (body : Text) :
    AddsEntry name body (extendList name body) ↔ layerBehind .code (listHead body) = .code := by
  by_cases hblank : isBlank (listHead body) = true
  · have hspaces : Spaces (listHead body) := List.all_eq_true.1 hblank
    exact iff_of_true (addsEntry_of_isBlank hname hblank)
      (layerBehind_of_not_mem (closes_of_spaces hspaces).slash_not_mem)
  obtain ⟨gap, hgap, hlist⟩ := exists_extendList name (Bool.eq_false_iff.2 hblank)
  have hclose := closes_close body
  constructor
  · intro hadds
    exact hadds.comma_in_code _ gap _ hlist hgap hclose
  · intro hcode
    constructor
    · have hslash : '/' ∉ ',' :: (gap ++ name ++ (listComma body ++ trailingSpace body)) := by
        have hparts := List.not_mem_append (closes_of_spaces hgap).slash_not_mem
          hname.slash_not_mem
        simpa using List.not_mem_append hparts hclose.slash_not_mem
      have hold : uncommented .code body =
          uncommented .code (listHead body) ++ (listComma body ++ trailingSpace body) := by
        conv_lhs => rw [← listHead_append body, List.append_assoc]
        rw [uncommented_append _ _ hclose.detached, hcode,
          uncommented_of_not_mem hclose.slash_not_mem]
      rw [hlist, uncommented_append _ _ (detached_cons (by decide) (by decide)), hcode,
        uncommented_of_not_mem hslash, hold, entries_append_cons, entries_append_close,
        entries_append_close, entries_name hgap hname.ne_nil
          hname.plain]
    · intro front gap' close heq hgap' hclose'
      rw [hlist] at heq
      rw [← eq_of_append_name hname hgap hgap' hclose hclose' heq, hcode]

end

/-! ### Lists that are extended -/

/-- The first list of names is the one that is extended. -/
theorem extendable?_of_firstList {rule : ImportRule} {text : Text} {s e : Cursor}
    (h : FirstList rule.module text s e) : rule.extendable? text = some (s, e) := by
  obtain ⟨earlier, m, later, hmatches, hearlier, hkind, hspan⟩ := h
  have htypes : earlier.filter (fun m => (m.span? kindGroup).isNone) = [] := by
    rw [List.filter_eq_nil_iff]
    intro m' hm'
    simpa using hearlier m' hm'
  rw [extendable?, hmatches, List.filter_append, htypes, List.nil_append]
  simp [hkind, hspan]

/-- If the rule extends an import, the list of that import gets the name as its last entry,
comments aside. -/
def KeepsListAt (rule : ImportRule) (text : Text) : Prop :=
  rule.strategy text = some .extendExisting →
    ∃ s e names, FirstList rule.module text s e ∧
      rule.apply text = s.before.reverse ++ names ++ e.after ∧
      AddsEntry rule.name (s.textUntil e) names

theorem keepsListAt_iff_addsEntry {rule : ImportRule} {text : Text}
    (h : rule.strategy text = some .extendExisting) {s e : Cursor}
    (hlist : rule.extendable? text = some (s, e)) :
    rule.KeepsListAt text ↔
      AddsEntry rule.name (s.textUntil e) (extendList rule.name (s.textUntil e)) := by
  have happly : rule.apply text =
      s.before.reverse ++ extendList rule.name (s.textUntil e) ++ e.after := by
    rw [apply, h, extendExisting, hlist]
  constructor
  · intro hkeeps
    obtain ⟨s', e', names, hfirst, hresult, hadds⟩ := hkeeps h
    have hends := (extendable?_of_firstList hfirst).symm.trans hlist
    obtain ⟨rfl, rfl⟩ := Prod.mk.inj (Option.some.inj hends)
    rw [happly] at hresult
    rwa [List.append_cancel_left (List.append_cancel_right hresult)]
  · intro hadds _
    exact ⟨s, e, _, firstList_of_extendable? hlist, happly, hadds⟩

/-- The rule keeps an import list in order just if the list, without a comma at its end and the
space there, does not end in a comment. -/
theorem keepsListAt_iff {rule : ImportRule} (hname : Bare rule.name) (text : Text) :
    rule.KeepsListAt text ↔
      (rule.strategy text = some .extendExisting → ∀ s e, FirstList rule.module text s e →
        layerBehind .code (listHead (s.textUntil e)) = .code) := by
  constructor
  · intro hkeeps hstrategy s e hfirst
    rw [← addsEntry_extendList_iff hname]
    exact (keepsListAt_iff_addsEntry hstrategy (extendable?_of_firstList hfirst)).1 hkeeps
  · intro hcode hstrategy
    obtain ⟨s, e, hlist⟩ := exists_extendable?_of_strategy hstrategy
    have hadds := (addsEntry_extendList_iff hname _).2
      (hcode hstrategy s e (firstList_of_extendable? hlist))
    exact (keepsListAt_iff_addsEntry hstrategy hlist).2 hadds hstrategy

/-- Comments before, between and behind the entries, and a comma at the end: the name goes
behind the last block comment. -/
theorem keepsListAt_block_comments :
    let rule : ImportRule :=
      { id := "", trigger := .always, name := "typed".toList, module := ['m'] }
    let text := "import \x7b\n  // a, b\n  A, /* c, */\n  B /* d */,\n\x7d from 'm'\n".toList
    Bare rule.name ∧ rule.KeepsListAt text ∧ rule.apply text =
      "import \x7b\n  // a, b\n  A, /* c, */\n  B /* d */,\n  typed,\n\x7d from 'm'\n".toList := by
  intro rule text
  have hname : Bare rule.name :=
    bare_of_identifier ⟨'t', "yped".toList, rfl, by decide, List.all_eq_true.1 (by decide)⟩
  refine ⟨hname, (keepsListAt_iff hname text).2 fun _ s e hfirst => ?_, by decide +kernel⟩
  have hlist : (rule.extendable? text).map (fun ends => ends.1.textUntil ends.2) =
      some "\n  // a, b\n  A, /* c, */\n  B /* d */,\n".toList := by decide +kernel
  rw [extendable?_of_firstList hfirst, Option.map_some, Option.some.injEq] at hlist
  rw [show s.textUntil e = _ from hlist]
  rfl

/-- The comma becomes part of the comment behind the last entry, and the name part of the
entry. -/
theorem not_keepsListAt_line_comment :
    let rule : ImportRule :=
      { id := "", trigger := .always, name := "typed".toList, module := ['m'] }
    let text := "import \x7b\n  A,\n  B // last\n\x7d from 'm'\n".toList
    ¬ rule.KeepsListAt text := by
  intro rule text hkeeps
  have hstrategy : rule.strategy text = some .extendExisting := by decide +kernel
  obtain ⟨s, e, hends⟩ := exists_extendable?_of_strategy hstrategy
  have hlist : (rule.extendable? text).map (fun ends => ends.1.textUntil ends.2) =
      some "\n  A,\n  B // last\n".toList := by decide +kernel
  rw [hends, Option.map_some, Option.some.injEq] at hlist
  have hadds := (keepsListAt_iff_addsEntry hstrategy hends).1 hkeeps
  rw [show s.textUntil e = _ from hlist] at hadds
  exact absurd hadds.entries_eq (by decide +kernel)

end ImportRule

end CodeMigration
