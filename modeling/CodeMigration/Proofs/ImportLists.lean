import CodeMigration.Proofs.Imports

/-!
# CodeMigration.Proofs.ImportLists

Import lists as the entries between their commas. An entry is what is left of the text there
without the white space around it, and empty ones do not count, so neither the layout of a list
nor a comma at its end shows in its entries.

A name that is added to a list becomes its last entry, whatever the layout of the list is
(`ImportRule.entries_extendList`), and a list with the name among its entries imports it
(`ImportRule.lists_of_mem_entries`).
-/

namespace CodeMigration

namespace Text

/-! ### Splitting and trimming -/

theorem splitAtChar_eq_splitOnP (separator : Char) (text : Text) :
    splitAtChar separator text = text.splitOnP (· == separator) := by
  induction text with
  | nil => rfl
  | cons c rest ih =>
      rw [splitAtChar, List.splitOnP_cons_eq_if_modifyHead, ih]
      split
      · rfl
      · obtain ⟨part, parts, hparts⟩ := List.exists_cons_of_ne_nil
          (List.splitOnP_ne_nil (· == separator) rest)
        rw [hparts]
        rfl

/-- The text without the white space around it. -/
def trim (text : Text) : Text := trimStart (trimEnd text)

theorem trimEnd_append_spaces (text : Text) {s : Text} (hs : Spaces s) :
    trimEnd (text ++ s) = trimEnd text := by
  rw [trimEnd, List.reverse_append, List.dropWhile_append_of_pos, trimEnd]
  exact fun c hc => hs c (List.mem_reverse.1 hc)

theorem dropWhile_of_solid {word : Text} (hne : word ≠ [])
    (hword : ∀ c ∈ word, Unicode.isSpace c = false) (rest : Text) :
    (word ++ rest).dropWhile Unicode.isSpace = word ++ rest := by
  cases word with
  | nil => exact absurd rfl hne
  | cons c word =>
      rw [List.cons_append, List.dropWhile_cons, hword c List.mem_cons_self]
      rfl

/-- A word with white space before it is what trimming leaves. -/
theorem trim_spaces_append {s word : Text} (hs : Spaces s) (hne : word ≠ [])
    (hword : ∀ c ∈ word, Unicode.isSpace c = false) : trim (s ++ word) = word := by
  have hend : trimEnd (s ++ word) = s ++ word := by
    rw [trimEnd, List.reverse_append, dropWhile_of_solid, ← List.reverse_append,
      List.reverse_reverse]
    · exact fun h => hne (List.reverse_eq_nil_iff.1 h)
    · exact fun c hc => hword c (List.mem_reverse.1 hc)
  rw [trim, hend, trimStart, List.dropWhile_append_of_pos hs]
  simpa using dropWhile_of_solid hne hword []

theorem spaces_trailingSpace (text : Text) : Spaces (trailingSpace text) := by
  intro c hc
  exact List.mem_takeWhile_imp (List.mem_reverse.1 hc)

theorem spaces_leadingSpace (text : Text) : Spaces (leadingSpace text) :=
  fun _ hc => List.mem_takeWhile_imp hc

/-- A text is what trimming leaves, between white space. -/
theorem exists_eq_trim (text : Text) :
    ∃ s t, text = s ++ trim text ++ t ∧ Spaces s ∧ Spaces t := by
  refine ⟨leadingSpace (trimEnd text), trailingSpace text, ?_, spaces_leadingSpace _,
    spaces_trailingSpace text⟩
  rw [trim, trimStart, leadingSpace, List.takeWhile_append_dropWhile, trimEnd_append_trailingSpace]

/-! ### The words of a text -/

theorem collect_spaces_append {s : Text} (hs : Spaces s) (rest : Text) :
    words.collect (s ++ rest) [] = words.collect rest [] := by
  induction s with
  | nil => rfl
  | cons c s ih =>
      obtain ⟨hc, hs⟩ := spaces_cons.1 hs
      simpa [words.collect, hc] using ih hs

theorem collect_word_append {word : Text} (hword : ∀ c ∈ word, Unicode.isSpace c = false)
    (rest read : Text) :
    words.collect (word ++ rest) read = words.collect rest (word.reverse ++ read) := by
  induction word generalizing read with
  | nil => rfl
  | cons c word ih =>
      obtain ⟨hc, hword⟩ := List.forall_mem_cons.1 hword
      simpa [words.collect, hc] using ih hword (c :: read)

theorem collect_spaces {s read : Text} (hs : Spaces s) (hread : read ≠ []) :
    words.collect s read = [read.reverse] := by
  cases s with
  | nil => simp [words.collect, hread]
  | cons c s =>
      obtain ⟨hc, hs⟩ := spaces_cons.1 hs
      have hrest : words.collect s [] = [] := by
        simpa [words.collect] using collect_spaces_append hs []
      simp [words.collect, hc, hread, hrest]

/-- A text that trimming leaves one word of has this word alone. -/
theorem words_of_trim_eq {text word : Text} (h : trim text = word) (hne : word ≠ [])
    (hword : ∀ c ∈ word, Unicode.isSpace c = false) : words text = [word] := by
  obtain ⟨s, t, htext, hs, ht⟩ := exists_eq_trim text
  rw [htext, h, List.append_assoc, words, collect_spaces_append hs, collect_word_append hword,
    List.append_nil, collect_spaces ht]
  · rw [List.reverse_reverse]
  · exact fun hnil => hne (List.reverse_eq_nil_iff.1 hnil)

end Text

namespace ImportRule

open Text

/-! ### Entries -/

/-- What stands between the commas of an import list, without white space around it and
without what is empty then. -/
def entries (body : Text) : List Text :=
  ((splitAtChar ',' body).map trim).filter fun entry => entry != []

theorem comma_not_mem_spaces {s : Text} (hs : Spaces s) : ',' ∉ s := by
  intro hmem
  exact absurd (hs ',' hmem) (by decide)

theorem entries_append_cons (x y : Text) : entries (x ++ ',' :: y) = entries x ++ entries y := by
  simp only [entries, splitAtChar_eq_splitOnP]
  rw [List.splitOnP_append_cons x y (by rfl), List.map_append, List.filter_append]

theorem entries_of_not_mem {x : Text} (h : ',' ∉ x) :
    entries x = [trim x].filter fun entry => entry != [] := by
  have hone : splitAtChar ',' x = [x] := by
    rw [splitAtChar_eq_splitOnP]
    exact List.splitOnP_eq_singleton fun c hc => beq_eq_false_iff_ne.2 (ne_of_mem_of_not_mem hc h)
  rw [entries, hone]
  rfl

/-- White space at the end of a list is not part of an entry. -/
theorem entries_append_spaces (x : Text) {s : Text} (hs : Spaces s) :
    entries (x ++ s) = entries x := by
  -- Only what follows the last comma gets the white space.
  have hlast : ∀ v, ',' ∉ v → entries (v ++ s) = entries v := by
    intro v hv
    have hjoined : ',' ∉ v ++ s := by
      simpa using ⟨hv, comma_not_mem_spaces hs⟩
    rw [entries_of_not_mem hv, entries_of_not_mem hjoined, trim, trimEnd_append_spaces v hs, trim]
  by_cases hx : ',' ∈ x
  · obtain ⟨v, u, hrev, hv⟩ := List.eq_append_cons_of_mem (List.mem_reverse.2 hx)
    have hsplit : x = u.reverse ++ ',' :: v.reverse := by simpa using congrArg List.reverse hrev
    rw [hsplit, List.append_assoc, List.cons_append, entries_append_cons, entries_append_cons,
      hlast v.reverse (by simpa using hv)]
  · exact hlast x hx

theorem entries_spaces {s : Text} (hs : Spaces s) : entries s = [] :=
  entries_append_spaces [] hs

/-- A name with white space before it is one entry. -/
theorem entries_name {gap name : Text} (hgap : Spaces gap) (hne : name ≠ [])
    (hname : ∀ c ∈ name, Unicode.isSpace c = false ∧ c ≠ ',') : entries (gap ++ name) = [name] := by
  have hcomma : ',' ∉ gap ++ name := by
    rw [List.mem_append, not_or]
    exact ⟨comma_not_mem_spaces hgap, fun hmem => (hname ',' hmem).2 rfl⟩
  rw [entries_of_not_mem hcomma, trim_spaces_append hgap hne fun c hc => (hname c hc).1]
  simp [hne]

/-- A list with the name among its entries imports it, unless the name marks a type. -/
theorem lists_of_mem_entries {name body : Text} (hmem : name ∈ entries body) (hne : name ≠ [])
    (htype : name ≠ "type".toList) (hname : ∀ c ∈ name, Unicode.isSpace c = false) :
    lists name body = true := by
  obtain ⟨entry, hentry, htrim⟩ := List.mem_map.1 (List.mem_filter.1 hmem).1
  refine List.any_eq_true.2 ⟨entry, hentry, ?_⟩
  have hnot : (name == "type".toList) = false := beq_eq_false_iff_ne.2 htype
  simp only [importedName, words_of_trim_eq htrim hne hname, hnot]
  exact beq_self_eq_true _

/-! ### Adding a name -/

/-- A comma at the end of a list and the space behind it do not show in the entries. -/
theorem entries_append_close (x body : Text) :
    entries (x ++ (listComma body ++ trailingSpace body)) = entries x := by
  unfold listComma
  split
  · rw [List.singleton_append, entries_append_cons, entries_spaces (spaces_trailingSpace body),
      List.append_nil]
  · exact entries_append_spaces x (spaces_trailingSpace body)

theorem entries_listHead (body : Text) : entries (listHead body) = entries body := by
  rw [← entries_append_close (listHead body) body, ← List.append_assoc, listHead_append]

/-- In a list without a name there is white space and commas. -/
theorem forall_mem_of_isBlank {body : Text} (h : isBlank (listHead body) = true) :
    ∀ c ∈ body, Unicode.isSpace c = true ∨ c = ',' := by
  have hcomma : ∀ c ∈ listComma body, c = ',' := by
    unfold listComma
    split <;> simp
  intro c hc
  rw [← listHead_append body, List.mem_append, List.mem_append] at hc
  rcases hc with (hhead | hlast) | hspace
  · exact .inl (List.all_eq_true.1 h c hhead)
  · exact .inr (hcomma c hlast)
  · exact .inl (spaces_trailingSpace body c hspace)

/-- A name goes behind the last name of a list, with a comma and white space between them. -/
theorem exists_extendList (name : Text) {body : Text} (h : isBlank (listHead body) = false) :
    ∃ gap, Spaces gap ∧ extendList name body =
      listHead body ++ ',' :: (gap ++ name ++ (listComma body ++ trailingSpace body)) := by
  rw [extendList_eq, if_neg (by simp [h])]
  split
  · refine ⟨'\n' :: leadingSpace (lastLine (listHead body)), ?_, by simp⟩
    exact spaces_cons.2 ⟨by decide, spaces_leadingSpace _⟩
  · exact ⟨[' '], spaces_blank, by simp⟩

/-- A name that is added to a list is the last entry of it. -/
theorem entries_extendList {name : Text} (hne : name ≠ [])
    (hname : ∀ c ∈ name, Unicode.isSpace c = false ∧ c ≠ ',') (body : Text) :
    entries (extendList name body) = entries body ++ [name] := by
  rw [← entries_listHead body]
  by_cases hblank : isBlank (listHead body) = true
  · have hhead : Spaces (listHead body) := List.all_eq_true.1 hblank
    rw [extendList_eq, if_pos hblank, entries_append_spaces _ spaces_blank, entries_spaces hhead]
    exact entries_name spaces_blank hne hname
  · obtain ⟨gap, hgap, hlist⟩ := exists_extendList name (Bool.eq_false_iff.2 hblank)
    rw [hlist, entries_append_cons, entries_append_close, entries_name hgap hne hname]

/-- A character that is neither white space nor a comma is not added with a name that lacks it. -/
theorem not_mem_extendList {c : Char} (hspace : Unicode.isSpace c = false) (hcomma : c ≠ ',')
    {name body : Text} (hname : c ∉ name) (hbody : c ∉ body) : c ∉ extendList name body := by
  have hnot : ∀ {s : Text}, Spaces s → c ∉ s := by
    intro s hs hmem
    rw [hs c hmem] at hspace
    cases hspace
  rw [← listHead_append body, List.append_assoc, List.mem_append, not_or] at hbody
  by_cases hblank : isBlank (listHead body) = true
  · rw [extendList_eq, if_pos hblank]
    simpa [hname] using hnot spaces_blank
  · obtain ⟨gap, hgap, hlist⟩ := exists_extendList name (Bool.eq_false_iff.2 hblank)
    rw [hlist]
    simpa [hbody.1, hcomma, hnot hgap, hname] using hbody.2

end ImportRule

end CodeMigration
