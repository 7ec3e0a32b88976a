import CodeMigration.Proofs.QuotedTexts
import CodeMigration.Toml.Reader
import CodeMigration.Toml.Writer

/-!
# CodeMigration.Proofs.WrittenDocuments

Documents are read as they were written, statement by statement (`parse?_print`). The
statements are headers of any path and values that are texts or lists of texts; more is never
written.

What is written always begins with a character that is neither a blank nor the start of a
comment or of a new line (`isInk`), and what stands behind it can be told from it: a name ends
before a bracket, a dot or a blank, a text before anything but a quote. So each reader takes
just what its writer has written, and leaves the rest.
-/

namespace CodeMigration.Toml

open Quoted

/-- The value is a text or a list of texts. -/
inductive Value.Textual : Value → Prop
  | text (s : String) : Textual (.text s)
  | texts (ss : List String) : Textual (.list (ss.map .text))

namespace Reader

/-! ### Blanks and lines -/

theorem skipBlanks_cons {c : Char} (h : isBlank c = false) (r : Text) :
    skipBlanks (c :: r) = c :: r := by
  simp [skipBlanks, h]

@[simp] theorem skipBlanks_blank (r : Text) : skipBlanks (' ' :: r) = skipBlanks r := by
  simp [skipBlanks, isBlank]

/-- Is the character one that neither blanks nor comments nor line ends begin with? -/
def isInk (c : Char) : Bool := !isBlank c && c != '#' && c != '\n' && c != '\r'

theorem isBlank_of_isInk {c : Char} (h : isInk c = true) : isBlank c = false := by
  simp only [isInk, Bool.and_eq_true, Bool.not_eq_true'] at h
  exact h.1.1.1

theorem skipLines_ink {c : Char} (h : isInk c = true) (n : Nat) (r : Text) :
    skipLines n (c :: r) = c :: r := by
  cases n with
  | zero => rfl
  | succ n =>
      rw [skipLines, skipBlanks_cons (isBlank_of_isInk h)]
      simp only [isInk, Bool.and_eq_true, bne_iff_ne] at h
      split
      all_goals simp_all

theorem skipLines_newline (n : Nat) (r : Text) : skipLines (n + 1) ('\n' :: r) = skipLines n r := by
  rw [skipLines, skipBlanks_cons (by decide)]
  rfl

theorem statementEnd?_newline (r : Text) : statementEnd? ('\n' :: r) = some r := by
  rw [statementEnd?, skipBlanks_cons (by decide)]
  rfl

/-! ### Values -/

theorem unquoted_cons {c : Char} (hdouble : c ≠ '"') (hsingle : c ≠ '\'') (r : Text) :
    Unquoted (c :: r) := by
  simp [Unquoted, hdouble, hsingle]

theorem exists_write_append (s : String) (r : Text) :
    ∃ c w, Quoted.write s.toList ++ r = c :: w ∧ isInk c = true ∧ c ≠ ']' := by
  obtain ⟨quote, w, hw, rfl | rfl⟩ := exists_write_eq_cons s.toList
  all_goals exact ⟨_, w ++ r, by rw [hw]; rfl, rfl, by decide⟩

theorem skipLines_write (s : String) (r : Text) (n : Nat) :
    skipLines n (Quoted.write s.toList ++ r) = Quoted.write s.toList ++ r := by
  obtain ⟨c, w, hw, hc, -⟩ := exists_write_append s r
  rw [hw, skipLines_ink hc]

theorem skipLines_indented (s : String) (r : Text) (n : Nat) :
    skipLines (n + 1) (' ' :: ' ' :: ' ' :: ' ' :: (Quoted.write s.toList ++ r)) =
      Quoted.write s.toList ++ r := by
  obtain ⟨c, w, hw, hc, -⟩ := exists_write_append s r
  have hskip : skipBlanks (' ' :: ' ' :: ' ' :: ' ' :: c :: w) = skipBlanks (c :: w) := by simp
  rw [hw, skipLines, hskip, ← skipLines, skipLines_ink hc]

theorem value?_write (s : String) {rest : Text} (hrest : Unquoted rest) (fuel depth : Nat) :
    value? (fuel + 1) depth (Quoted.write s.toList ++ rest) = some (.text s, rest) := by
  have hread := read?_write s.toList hrest
  obtain ⟨quote, w, hw, hquote⟩ := exists_write_eq_cons s.toList
  rw [hw] at hread ⊢
  rcases hquote with rfl | rfl
  all_goals
    rw [List.cons_append] at hread ⊢
    simp [value?, hread]

theorem value?_bracket {depth : Nat} (hdepth : depth ≠ 0) (fuel : Nat) (r : Text) :
    value? (fuel + 1) depth ('[' :: r) =
      (items? fuel (depth - 1) (skipLines r.length r)).map
        fun (items, rest) => (.list items, rest) := by
  rw [value?]
  exact if_neg hdepth

theorem items?_write_comma (s : String) (rest : Text) (fuel depth : Nat) :
    items? (fuel + 2) depth (Quoted.write s.toList ++ ',' :: rest) =
      (items? (fuel + 1) depth (skipLines rest.length rest)).map fun (items, rest) =>
        (.text s :: items, rest) := by
  obtain ⟨c, w, hw, -, hc⟩ := exists_write_append s (',' :: rest)
  rw [items?, value?_write s (unquoted_cons (by decide) (by decide) rest)]
  · dsimp only
    rw [skipLines_ink (by decide)]
    rfl
  · simp [hw, hc]

theorem items?_write_bracket (s : String) (rest : Text) (fuel depth : Nat) :
    items? (fuel + 2) depth (Quoted.write s.toList ++ ']' :: rest) = some ([.text s], rest) := by
  obtain ⟨c, w, hw, -, hc⟩ := exists_write_append s (']' :: rest)
  rw [items?, value?_write s (unquoted_cons (by decide) (by decide) rest)]
  · dsimp only
    rw [skipLines_ink (by decide)]
    rfl
  · simp [hw, hc]

/-- Items on lines of their own are read one after the other. -/
theorem items?_writeItems (ss : List String) (rest : Text) {n fuel : Nat} (hn : 2 ≤ n)
    (hfuel : ss.length < fuel) (depth : Nat) :
    items? (fuel + 1) depth
        (skipLines n ('\n' :: (Value.writeItems (ss.map .text) ++ ']' :: rest))) =
      some (ss.map .text, rest) := by
  obtain ⟨n, rfl⟩ := Nat.exists_eq_add_of_le' hn
  induction ss generalizing n fuel with
  | nil =>
      rw [skipLines_newline, List.map_nil, Value.writeItems, List.nil_append,
        skipLines_ink (by decide), items?]
  | cons s ss ih =>
      obtain ⟨fuel, rfl⟩ : ∃ m, fuel = m + 1 := ⟨fuel - 1, by omega⟩
      rw [List.length_cons, Nat.add_lt_add_iff_right] at hfuel
      have hchars : Value.writeItems ((s :: ss).map .text) ++ ']' :: rest =
          ' ' :: ' ' :: ' ' :: ' ' :: (Quoted.write s.toList ++ ',' :: '\n' ::
            (Value.writeItems (ss.map .text) ++ ']' :: rest)) := by
        simp [Value.writeItems, Value.write]
      have hlength : ('\n' :: (Value.writeItems (ss.map .text) ++ ']' :: rest)).length =
          (Value.writeItems (ss.map .text) ++ rest).length + 2 := by
        simp only [List.length_cons, List.length_append]
        omega
      rw [skipLines_newline, hchars, skipLines_indented, items?_write_comma, hlength, ih hfuel]
      · rfl
      · omega

theorem length_le_length_writeItems (ss : List String) :
    ss.length ≤ (Value.writeItems (ss.map .text)).length := by
  induction ss with
  | nil => exact Nat.zero_le _
  | cons s ss ih =>
      rw [List.map_cons, Value.writeItems]
      simp only [List.length_append, List.length_cons, String.reduceToList]
      omega

/-- A text and a list of texts are read as they were written. -/
theorem wholeValue?_write {v : Value} (hv : v.Textual) {rest : Text} (hrest : Unquoted rest) :
    wholeValue? (v.write ++ rest) = some (v, rest) := by
  cases hv with
  | text s => exact value?_write s hrest _ _
  | texts ss =>
      match ss with
      | [] =>
          have hchars : (Value.list ([].map .text)).write ++ rest = '[' :: ']' :: rest := by
            simp [Value.write]
          rw [hchars, wholeValue?, value?_bracket (by decide), skipLines_ink (by decide)]
          simp [items?]
      | [s] =>
          have hchars : (Value.list ([s].map .text)).write ++ rest =
              '[' :: (Quoted.write s.toList ++ ']' :: rest) := by
            simp [Value.write]
          rw [hchars, wholeValue?, value?_bracket (by decide), skipLines_write, List.length_cons,
            Nat.mul_add, items?_write_bracket]
          rfl
      | s :: t :: ss =>
          have hchars : (Value.list ((s :: t :: ss).map .text)).write ++ rest =
              '[' :: '\n' :: (Value.writeItems ((s :: t :: ss).map .text) ++ ']' :: rest) := by
            simp [Value.write]
          have hlength := length_le_length_writeItems (s :: t :: ss)
          rw [hchars, wholeValue?, value?_bracket (by decide), items?_writeItems]
          · rfl
          · simp only [List.length_cons, List.length_append]
            omega
          · simp only [List.length_cons, List.length_append] at hlength ⊢
            omega

/-! ### Names -/

theorem isInk_of_isBare {c : Char} (h : isBare c = true) : isInk c = true := by
  have hne : ∀ d, isBare d = false → c ≠ d := by
    rintro d hd rfl
    rw [h] at hd
    cases hd
  simp only [isInk, isBlank, Bool.and_eq_true, Bool.not_eq_true', Bool.or_eq_false_iff,
    beq_eq_false_iff_ne, bne_iff_ne]
  exact ⟨⟨⟨⟨hne _ rfl, hne _ rfl⟩, hne _ rfl⟩, hne _ rfl⟩, hne _ rfl⟩

/-- A written name begins with a character of its own or with a quote. -/
theorem exists_writeName_append (name : String) (r : Text) :
    ∃ c w, writeName name.toList ++ r = c :: w ∧ isInk c = true ∧ c ≠ '[' ∧ c ≠ '\uFEFF' := by
  rcases writeName_cases name.toList with ⟨hne, hbare, h⟩ | ⟨quote, w, h, rfl | rfl, -⟩
  · obtain ⟨c, w, hc⟩ := List.exists_cons_of_ne_nil hne
    have hcbare : isBare c = true := hbare c (by simp [hc])
    refine ⟨c, w ++ r, by rw [h, hc]; rfl, isInk_of_isBare hcbare, ?_, ?_⟩
    · rintro rfl
      cases hcbare
    · rintro rfl
      cases hcbare
  · exact ⟨_, w ++ r, by rw [h]; rfl, rfl, by decide, by decide⟩
  · exact ⟨_, w ++ r, by rw [h]; rfl, rfl, by decide, by decide⟩

theorem namePart?_writeName (name : String) {c : Char} (hc : isBare c = false) (r : Text) :
    namePart? (writeName name.toList ++ c :: r) = some (name, c :: r) := by
  unfold namePart?
  rcases writeName_cases name.toList with ⟨hne, hbare, h⟩ | ⟨quote, w, h, hquote, hread⟩
  · have htake : (name.toList ++ c :: r).takeWhile isBare = name.toList := by
      rw [List.takeWhile_append_of_pos hbare]
      simp [hc]
    have hdrop : (name.toList ++ c :: r).dropWhile isBare = c :: r := by
      rw [List.dropWhile_append_of_pos hbare]
      simp [hc]
    rw [h, htake, hdrop]
    split
    · next hnil => exact absurd hnil hne
    · simp
  · have htake : (writeName name.toList ++ c :: r).takeWhile isBare = [] := by
      rw [h]
      rcases hquote with rfl | rfl <;> rfl
    rw [htake, hread]
    simp

theorem writePath_cons_cons (name next : String) (path : List String) :
    writePath (name :: next :: path) =
      writeName name.toList ++ '.' :: writePath (next :: path) := by
  simp [writePath]

theorem writePath_singleton (name : String) : writePath [name] = writeName name.toList := by
  simp [writePath]

/-- Names end before a bracket, and before the sign that a value follows. -/
def EndsName (rest : Text) : Prop :=
  ∃ c r, rest = c :: r ∧ isBare c = false ∧ (skipBlanks rest).head? ≠ some '.'

theorem nameParts?_writePath {path : List String} (hpath : path ≠ []) {fuel : Nat}
    (hfuel : path.length ≤ fuel) {rest : Text} (hrest : EndsName rest) :
    nameParts? fuel (writePath path ++ rest) = some (path, skipBlanks rest) := by
  induction path generalizing fuel with
  | nil => exact absurd rfl hpath
  | cons name path ih =>
      rw [List.length_cons] at hfuel
      obtain ⟨fuel, rfl⟩ : ∃ m, fuel = m + 1 := ⟨fuel - 1, by omega⟩
      cases path with
      | nil =>
          obtain ⟨c, w, hw, hc, -⟩ := exists_writeName_append name rest
          obtain ⟨d, r, rfl, hd, hdot⟩ := hrest
          rw [writePath_singleton, nameParts?, hw, skipBlanks_cons (isBlank_of_isInk hc), ← hw,
            namePart?_writeName name hd]
          dsimp only
          split
          · next hskip => exact absurd (by rw [hskip]; rfl) hdot
          · rfl
      | cons next path =>
          obtain ⟨c, w, hw, hc, -⟩ :=
            exists_writeName_append name ('.' :: (writePath (next :: path) ++ rest))
          rw [writePath_cons_cons, List.append_assoc, List.cons_append, nameParts?, hw,
            skipBlanks_cons (isBlank_of_isInk hc), ← hw, namePart?_writeName name (by decide)]
          dsimp only
          rw [skipBlanks_cons (by decide)]
          simp [ih (List.cons_ne_nil next path) (Nat.le_of_succ_le_succ hfuel)]

/-! ### Statements -/

end Reader

/-- The statement names something, the name is not too deep, and a value is textual. -/
def Statement.Plain : Statement → Prop
  | .opens path => path ≠ [] ∧ path.length < Reader.maxDepth
  | .appends path => path ≠ [] ∧ path.length < Reader.maxDepth
  | .entry path value => (path ≠ [] ∧ path.length < Reader.maxDepth) ∧ value.Textual

namespace Reader

theorem name?_writePath {path : List String} (hpath : path ≠ [] ∧ path.length < maxDepth)
    {rest : Text} (hrest : EndsName rest) :
    name? (writePath path ++ rest) = some (path, skipBlanks rest) :=
  nameParts?_writePath hpath.1 (Nat.le_sub_one_of_lt hpath.2) hrest

theorem endsName_cons {c : Char} (hbare : isBare c = false) (hblank : isBlank c = false)
    (hdot : c ≠ '.') (r : Text) : EndsName (c :: r) :=
  ⟨c, r, rfl, hbare, by simpa [skipBlanks_cons hblank] using hdot⟩

theorem endsName_equals (r : Text) : EndsName (' ' :: '=' :: r) :=
  ⟨' ', '=' :: r, rfl, by decide, by simp [skipBlanks_cons (c := '=') (by decide)]⟩

theorem exists_writePath_append {path : List String} (hpath : path ≠ []) (r : Text) :
    ∃ c w, writePath path ++ r = c :: w ∧ isInk c = true ∧ c ≠ '[' ∧ c ≠ '\uFEFF' := by
  match path with
  | [name] =>
      rw [writePath_singleton]
      exact exists_writeName_append name r
  | name :: next :: path =>
      rw [writePath_cons_cons, List.append_assoc]
      exact exists_writeName_append name _

theorem skipBlanks_value {v : Value} (hv : v.Textual) (r : Text) :
    skipBlanks (v.write ++ r) = v.write ++ r := by
  cases hv with
  | text s =>
      obtain ⟨c, w, hw, hc, -⟩ := exists_write_append s r
      rw [Value.write, hw, skipBlanks_cons (isBlank_of_isInk hc)]
  | texts ss =>
      match ss with
      | [] | [s] | s :: t :: ss => simp [Value.write, skipBlanks_cons (c := '[') (by decide)]

theorem exists_write_append_rest {statement : Statement} (h : statement.Plain) (r : Text) :
    ∃ c w, statement.write ++ r = c :: w ∧ isInk c = true ∧ c ≠ '\uFEFF' := by
  cases statement with
  | opens path => exact ⟨'[', _, rfl, rfl, by decide⟩
  | appends path =>
      have hchars : (Statement.appends path).write ++ r =
          '[' :: '[' :: (writePath path ++ ']' :: ']' :: '\n' :: r) := by
        simp [Statement.write]
      exact ⟨'[', _, hchars, rfl, by decide⟩
  | entry path value =>
      obtain ⟨c, w, hw, hc, -, hmark⟩ := exists_writePath_append h.1.1
        (' ' :: '=' :: ' ' :: (value.write ++ '\n' :: r))
      refine ⟨c, w, ?_, hc, hmark⟩
      rw [← hw]
      simp [Statement.write]

theorem length_write_pos {statement : Statement} (h : statement.Plain) :
    0 < statement.write.length := by
  obtain ⟨c, w, hw, -⟩ := exists_write_append_rest h []
  rw [List.append_nil] at hw
  simp [hw]

/-- A statement is read with its line. -/
theorem statement?_write {statement : Statement} (h : statement.Plain) (rest : Text) :
    statement? (statement.write ++ rest) = some (statement, rest) := by
  cases statement with
  | opens path =>
      obtain ⟨c, w, hw, -, hc, -⟩ := exists_writePath_append h.1 (']' :: '\n' :: rest)
      have hchars : (Statement.opens path).write ++ rest =
          '[' :: (writePath path ++ ']' :: '\n' :: rest) := by
        simp [Statement.write]
      have hname := name?_writePath h
        (endsName_cons (c := ']') (by decide) (by decide) (by decide) ('\n' :: rest))
      rw [hchars, statement?, hname, skipBlanks_cons (by decide)]
      · simp [statementEnd?_newline]
      · simp [hw, hc]
  | appends path =>
      have hchars : (Statement.appends path).write ++ rest =
          '[' :: '[' :: (writePath path ++ ']' :: ']' :: '\n' :: rest) := by
        simp [Statement.write]
      have hname := name?_writePath h
        (endsName_cons (c := ']') (by decide) (by decide) (by decide) (']' :: '\n' :: rest))
      rw [hchars, statement?, hname, skipBlanks_cons (by decide)]
      simp [statementEnd?_newline]
  | entry path value =>
      obtain ⟨hpath, hvalue⟩ := h
      have hchars : (Statement.entry path value).write ++ rest =
          writePath path ++ ' ' :: '=' :: ' ' :: (value.write ++ '\n' :: rest) := by
        simp [Statement.write]
      have hname := name?_writePath hpath (endsName_equals (' ' :: (value.write ++ '\n' :: rest)))
      have hread :=
        wholeValue?_write hvalue (unquoted_cons (c := '\n') (by decide) (by decide) rest)
      have hskip : skipBlanks (' ' :: '=' :: ' ' :: (value.write ++ '\n' :: rest)) =
          '=' :: ' ' :: (value.write ++ '\n' :: rest) := by
        rw [skipBlanks_blank, skipBlanks_cons (by decide)]
      obtain ⟨c, w, hw, -, hc, -⟩ := exists_writePath_append hpath.1
        (' ' :: '=' :: ' ' :: (value.write ++ '\n' :: rest))
      rw [hchars, statement?, hname, hskip]
      · simp [skipBlanks_value hvalue, hread, statementEnd?_newline]
      · simp [hw, hc]
      · simp [hw, hc]

theorem statements?_newline (fuel : Nat) (r : Text) :
    statements? (fuel + 1) ('\n' :: r) = statements? fuel r := by
  rw [statements?, skipBlanks_cons (by decide)]
  rfl

theorem statements?_write {statement : Statement} (h : statement.Plain) (fuel : Nat) (rest : Text) :
    statements? (fuel + 1) (statement.write ++ rest) =
      (statements? fuel rest).map (statement :: ·) := by
  have hread := statement?_write h rest
  obtain ⟨c, w, hw, hc, -⟩ := exists_write_append_rest h rest
  rw [hw] at hread ⊢
  rw [statements?, skipBlanks_cons (isBlank_of_isInk hc)]
  simp only [isInk, Bool.and_eq_true, bne_iff_ne] at hc
  split
  all_goals simp_all

theorem statements?_writeRest {statements : List Statement}
    (h : ∀ statement ∈ statements, statement.Plain) {fuel : Nat}
    (hfuel : (Statement.writeRest statements).length < fuel) :
    statements? fuel (Statement.writeRest statements) = some statements := by
  induction statements generalizing fuel with
  | nil =>
      obtain ⟨fuel, rfl⟩ : ∃ m, fuel = m + 1 := ⟨fuel - 1, by omega⟩
      rfl
  | cons statement statements ih =>
      obtain ⟨hstatement, hrest⟩ := List.forall_mem_cons.1 h
      have hlength := length_write_pos hstatement
      rw [Statement.writeRest, List.append_assoc] at hfuel ⊢
      rw [List.length_append, List.length_append] at hfuel
      split
      · next hheader =>
        rw [if_pos hheader, List.length_singleton] at hfuel
        obtain ⟨fuel, rfl⟩ : ∃ m, fuel = m + 2 := ⟨fuel - 2, by omega⟩
        rw [List.singleton_append, statements?_newline, statements?_write hstatement,
          ih hrest (by omega)]
        rfl
      · obtain ⟨fuel, rfl⟩ : ∃ m, fuel = m + 1 := ⟨fuel - 1, by omega⟩
        rw [List.nil_append, statements?_write hstatement, ih hrest (by omega)]
        rfl

end Reader

/-- What a printed document stands for is what its statements add up to. -/
theorem parse?_print {statements : List Statement}
    (h : ∀ statement ∈ statements, statement.Plain) :
    parse? (print statements) = Statement.toTable? statements := by
  cases statements with
  | nil => rfl
  | cons statement statements =>
      obtain ⟨hstatement, hrest⟩ := List.forall_mem_cons.1 h
      obtain ⟨c, w, hw, -, hmark⟩ :=
        Reader.exists_write_append_rest hstatement (Statement.writeRest statements)
      have hdrop :
          dropMark (print (statement :: statements)) = print (statement :: statements) := by
        rw [print, hw, dropMark]
        exact fun rest heq => hmark (List.cons.inj heq).1
      have hlength := Reader.length_write_pos hstatement
      rw [parse?, hdrop, print, Reader.statements?_write hstatement,
        Reader.statements?_writeRest hrest]
      · rfl
      · rw [List.length_append]
        omega

end CodeMigration.Toml
