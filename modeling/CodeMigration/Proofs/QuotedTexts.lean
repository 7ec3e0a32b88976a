import CodeMigration.Toml.Quoted
import Mathlib.Tactic.Common

/-!
# CodeMigration.Proofs.QuotedTexts

Texts in quotes are read as they were written, whatever characters they are made of
(`read?_write`), and so are names (`writeName_cases`).

Each of the forms that writing chooses from is read on its own terms. Between double quotes
it goes character by character: an escape is read as the character it stands for. Where
three quotes close a text, quotes inside it must not be taken for them. There are never three
in a row unless the text ends in quotes, and then the first three of all are the ones that
close it and the others are given back (`eq_of_three_quotes`, `closing_append`).
-/

namespace CodeMigration.Toml.Quoted

/-! ### Escapes -/

theorem isPlain_of_not_isControl {c : Char} (h : isControl c = false) (hline : c ≠ '\n') :
    isPlain c = true := by
  simp only [isControl, Bool.or_eq_false_iff, Bool.and_eq_false_iff, decide_eq_false_iff_not,
    bne_eq_false_iff_eq, beq_eq_false_iff_ne, hline, or_false] at h
  simp only [isPlain, Bool.or_eq_true, Bool.and_eq_true, decide_eq_true_eq, bne_iff_ne, beq_iff_eq]
  rcases h with ⟨hlow | htab, hdel⟩
  · exact .inr ⟨by omega, hdel⟩
  · exact .inl htab

theorem numbered?_hexDigit_lt : ∀ n < 128,
    numbered? ['0', '0', hexDigit (n / 16), hexDigit (n % 16)] = some (Char.ofNat n) := by
  decide +kernel

theorem numbered?_hexDigit {c : Char} (h : isControl c = true) :
    numbered? ['0', '0', hexDigit (c.toNat / 16), hexDigit (c.toNat % 16)] = some c := by
  simp only [isControl, Bool.or_eq_true, Bool.and_eq_true, decide_eq_true_eq, beq_iff_eq] at h
  rw [numbered?_hexDigit_lt c.toNat (by omega), Char.ofNat_toNat]

/-- An escape begins with a backslash, or it is the character itself. -/
theorem escape_cases (c : Char) :
    (c ≠ '"' ∧ c ≠ '\\' ∧ isControl c = false ∧ c ≠ '\n' ∧ escape c = [c]) ∨
      (∃ x, escape c = ['\\', x] ∧ escaped? x = some c) ∨
      ∃ x y, escape c = ['\\', 'u', '0', '0', x, y] ∧ numbered? ['0', '0', x, y] = some c := by
  unfold escape
  split
  case h_8 h₁ h₂ h₃ h₄ h₅ h₆ h₇ =>
    split
    · next hcontrol => exact .inr (.inr ⟨_, _, rfl, numbered?_hexDigit hcontrol⟩)
    · next hcontrol => exact .inl ⟨h₆, h₇, by simpa using hcontrol, h₃, rfl⟩
  all_goals exact .inr (.inl ⟨_, rfl, rfl⟩)

theorem readBasic_plain {c : Char} (hplain : isPlain c = true) (hquote : c ≠ '"')
    (hslash : c ≠ '\\') (r : Text) : readBasic (c :: r) = prepend c (readBasic r) := by
  rw [readBasic, if_pos (by simp [hplain, hslash])]
  · exact hquote
  · exact fun _ _ _ _ _ hc => absurd hc hslash
  · exact fun _ _ _ _ _ _ _ _ _ hc => absurd hc hslash
  · exact fun _ _ hc => absurd hc hslash

theorem readBasic_escaped {x c : Char} (h : escaped? x = some c) (r : Text) :
    readBasic ('\\' :: x :: r) = prepend c (readBasic r) := by
  have hu : x ≠ 'u' := by rintro rfl; cases h
  have hU : x ≠ 'U' := by rintro rfl; cases h
  rw [readBasic, h]
  · exact fun _ _ _ _ _ hx => absurd hx hu
  · exact fun _ _ _ _ _ _ _ _ _ hx => absurd hx hU

/-- An escaped character is read as the character. -/
theorem readBasic_escape (c : Char) (r : Text) :
    readBasic (escape c ++ r) = prepend c (readBasic r) := by
  rcases escape_cases c with ⟨hquote, hslash, hcontrol, hline, h⟩ | ⟨x, h, hx⟩ | ⟨x, y, h, hxy⟩
  · rw [h]
    exact readBasic_plain (isPlain_of_not_isControl hcontrol hline) hquote hslash r
  · rw [h]
    exact readBasic_escaped hx r
  · rw [h]
    show readBasic ('\\' :: 'u' :: '0' :: '0' :: x :: y :: r) = _
    rw [readBasic, hxy]

theorem readBasic_basicBody (text rest : Text) :
    readBasic (basicBody text ++ '"' :: rest) = some (text, rest) := by
  induction text with
  | nil => rfl
  | cons c text ih =>
      have hbody : basicBody (c :: text) = escape c ++ basicBody text := rfl
      rw [hbody, List.append_assoc, readBasic_escape, ih]
      rfl

theorem readLiteral_append {text : Text} (h : ∀ c ∈ text, isPlain c = true ∧ c ≠ '\'')
    (rest : Text) : readLiteral (text ++ '\'' :: rest) = some (text, rest) := by
  induction text with
  | nil => rfl
  | cons c text ih =>
      obtain ⟨⟨hplain, hquote⟩, htext⟩ := List.forall_mem_cons.1 h
      rw [List.cons_append, readLiteral, if_pos hplain, ih htext]
      · rfl
      · exact hquote

/-! ### Long texts -/

/-- Up to two quotes that a text ends with belong to it. -/
theorem closing_append {quote : Char} {w rest : Text} (hlength : w.length ≤ 2)
    (hw : ∀ c ∈ w, c = quote) (hrest : rest.head? ≠ some quote) :
    closing quote (w ++ rest) = (w, rest) := by
  match w with
  | [] =>
      match rest with
      | [] => rfl
      | [b] => simp_all [closing]
      | b :: c :: rest => simp_all [closing]
  | [a] =>
      obtain rfl := hw a List.mem_cons_self
      match rest with
      | [] => simp [closing]
      | b :: rest => simp_all [closing]
  | [a, b] =>
      obtain rfl := hw a (by simp)
      obtain rfl := hw b (by simp)
      simp [closing]

/-- Three quotes close a text unless they are the first of more, and then what stands before
them is nothing but quotes. -/
theorem eq_of_three_quotes {quote : Char} {w rest r : Text}
    (hw : ¬ [quote, quote, quote] <+: w)
    (h : w ++ quote :: quote :: quote :: rest = quote :: quote :: quote :: r) :
    w.length ≤ 2 ∧ (∀ c ∈ w, c = quote) ∧ r = w ++ rest := by
  match w with
  | [] => simp_all
  | [a] => simp_all
  | [a, b] => simp_all
  | a :: b :: c :: w =>
      simp only [List.cons_append, List.cons.injEq] at h
      obtain ⟨rfl, rfl, rfl, -⟩ := h
      exact absurd ⟨w, rfl⟩ hw

theorem readLongLiteral_cons {c : Char} {r : Text} (hc : isPlain c = true ∨ c = '\n')
    (hno : ∀ r', c :: r ≠ '\'' :: '\'' :: '\'' :: r') :
    readLongLiteral (c :: r) = prepend c (readLongLiteral r) := by
  rw [readLongLiteral, if_pos (by simpa using hc)]
  · rintro r' rfl rfl
    exact hno r' rfl
  · rintro r' rfl
    simp [isPlain] at hc

/-- There are never three of the quotes in a row. -/
def NoThree (quote : Char) (text : Text) : Prop := ¬ [quote, quote, quote] <:+: text

theorem readLongLiteral_append {text rest : Text}
    (h : ∀ c ∈ text, isPlain c = true ∨ c = '\n') (hthree : NoThree '\'' text)
    (hrest : rest.head? ≠ some '\'') :
    readLongLiteral (text ++ '\'' :: '\'' :: '\'' :: rest) = some (text, rest) := by
  induction text with
  | nil => exact congrArg some (closing_append (w := []) (by simp) (by simp) hrest)
  | cons c text ih =>
      by_cases hclose : ∃ r, c :: text ++ '\'' :: '\'' :: '\'' :: rest = '\'' :: '\'' :: '\'' :: r
      · obtain ⟨r, hr⟩ := hclose
        obtain ⟨hlength, hquotes, rfl⟩ :=
          eq_of_three_quotes (fun hprefix => hthree hprefix.isInfix) hr
        rw [hr, readLongLiteral, closing_append hlength hquotes hrest]
      · obtain ⟨hc, htext⟩ := List.forall_mem_cons.1 h
        have hnext : NoThree '\'' text := fun hinside =>
          hthree (hinside.trans (List.suffix_cons c text).isInfix)
        have hstep : readLongLiteral (c :: (text ++ '\'' :: '\'' :: '\'' :: rest)) = _ :=
          readLongLiteral_cons hc fun r hr => hclose ⟨r, hr⟩
        rw [List.cons_append, hstep, ih htext hnext]
        rfl

/-! ### Long texts with escapes -/

theorem readLongBasic_plain {c : Char} {r : Text} (hplain : isPlain c = true) (hslash : c ≠ '\\')
    (hno : ∀ r', c :: r ≠ '"' :: '"' :: '"' :: r') :
    readLongBasic false (c :: r) = prepend c (readLongBasic false r) := by
  have hreturn : c ≠ '\r' := by rintro rfl; cases hplain
  have hline : c ≠ '\n' := by rintro rfl; cases hplain
  rw [readLongBasic]
  · simp [hplain, hslash]
  · rintro r' rfl rfl
    exact hno r' rfl
  · exact fun _ hc => absurd hc hreturn
  · exact fun hc => absurd hc hline
  · exact fun _ _ _ _ _ hc => absurd hc hslash
  · exact fun _ _ _ _ _ _ _ _ _ hc => absurd hc hslash
  · exact fun _ _ hc => absurd hc hslash

theorem readLongBasic_escaped {x c : Char} (h : escaped? x = some c) (r : Text) :
    readLongBasic false ('\\' :: x :: r) = prepend c (readLongBasic false r) := by
  have hu : x ≠ 'u' := by rintro rfl; cases h
  have hU : x ≠ 'U' := by rintro rfl; cases h
  have hend : isLineEnd (x :: r) = false := by
    unfold escaped? at h
    split at h
    case h_8 => cases h
    all_goals rfl
  rw [readLongBasic, hend, h]
  · rfl
  · exact fun _ _ _ _ _ hx => absurd hx hu
  · exact fun _ _ _ _ _ _ _ _ _ hx => absurd hx hU

theorem readLongBasic_escape (c : Char) (r : Text) :
    readLongBasic false (escape c ++ r) = prepend c (readLongBasic false r) := by
  rcases escape_cases c with ⟨hquote, hslash, hcontrol, hline, h⟩ | ⟨x, h, hx⟩ | ⟨x, y, h, hxy⟩
  · rw [h]
    refine readLongBasic_plain (isPlain_of_not_isControl hcontrol hline) hslash fun r' hr' => ?_
    exact hquote (List.cons.inj hr').1
  · rw [h]
    exact readLongBasic_escaped hx r
  · rw [h]
    show readLongBasic false ('\\' :: 'u' :: '0' :: '0' :: x :: y :: r) = _
    rw [readLongBasic, hxy]

/-- An escape begins with neither a quote nor a line end. -/
theorem exists_escape_append (c : Char) (r : Text) :
    ∃ x w, escape c ++ r = x :: w ∧ x ≠ '"' ∧ x ≠ '\n' ∧ x ≠ '\r' := by
  rcases escape_cases c with ⟨hquote, -, hcontrol, hline, h⟩ | ⟨x, h, -⟩ | ⟨x, y, h, -⟩
  · refine ⟨c, r, by rw [h]; rfl, hquote, hline, ?_⟩
    rintro rfl
    cases hcontrol
  · exact ⟨'\\', x :: r, by rw [h]; rfl, by decide, by decide, by decide⟩
  · exact ⟨'\\', _, by rw [h]; rfl, by decide, by decide, by decide⟩

/-- Up to two quotes in a row and line ends stand as they are, and everything else is
escaped. -/
theorem longBasicBody_cons (run : Nat) (c : Char) (text : Text) :
    (c = '"' ∧ run < 2 ∧ longBasicBody run (c :: text) = c :: longBasicBody (run + 1) text) ∨
      (c = '\n' ∧ longBasicBody run (c :: text) = c :: longBasicBody 0 text) ∨
      longBasicBody run (c :: text) = escape c ++ longBasicBody 0 text := by
  rw [longBasicBody]
  split
  · next hc =>
    subst hc
    split
    · next hlt => exact .inl ⟨rfl, hlt, rfl⟩
    · exact .inr (.inr rfl)
  · split
    · next hc =>
      subst hc
      exact .inr (.inl ⟨rfl, rfl⟩)
    · exact .inr (.inr rfl)

/-- After some quotes the body goes on with no more than make two. -/
theorem not_isPrefix_longBasicBody {run : Nat} (hrun : run ≤ 2) (text : Text) :
    ¬ List.replicate (3 - run) '"' <+: longBasicBody run text := by
  induction text generalizing run with
  | nil =>
      intro h
      have hlength := h.length_le
      simp only [longBasicBody, List.length_replicate, List.length_nil] at hlength
      omega
  | cons c text ih =>
      rw [show 3 - run = 3 - (run + 1) + 1 by omega, List.replicate_succ]
      rcases longBasicBody_cons run c text with ⟨rfl, hlt, h⟩ | ⟨rfl, h⟩ | h
      · rw [h, List.cons_prefix_cons]
        exact fun hprefix => ih hlt hprefix.2
      · rw [h, List.cons_prefix_cons]
        exact fun hprefix => absurd hprefix.1 (by decide)
      · obtain ⟨x, w, hx, hquote, -⟩ := exists_escape_append c (longBasicBody 0 text)
        rw [h, hx, List.cons_prefix_cons]
        exact fun hprefix => hquote hprefix.1.symm

/-- A body of quotes alone has no escapes. -/
theorem longBasicBody_eq_self {run : Nat} {text : Text}
    (hquotes : ∀ c ∈ longBasicBody run text, c = '"') : longBasicBody run text = text := by
  induction text generalizing run with
  | nil => rfl
  | cons c text ih =>
      rcases longBasicBody_cons run c text with ⟨rfl, -, h⟩ | ⟨rfl, h⟩ | h
      · rw [h] at hquotes ⊢
        rw [ih (List.forall_mem_cons.1 hquotes).2]
      · rw [h] at hquotes
        exact absurd (hquotes '\n' List.mem_cons_self) (by decide)
      · obtain ⟨x, w, hx, hquote, -⟩ := exists_escape_append c (longBasicBody 0 text)
        rw [h, hx] at hquotes
        exact absurd (hquotes x List.mem_cons_self) hquote

theorem readLongBasic_longBasicBody {run : Nat} (hrun : run ≤ 2) (text : Text) {rest : Text}
    (hrest : rest.head? ≠ some '"') :
    readLongBasic false (longBasicBody run text ++ '"' :: '"' :: '"' :: rest) =
      some (text, rest) := by
  induction text generalizing run with
  | nil => exact congrArg some (closing_append (w := []) (by simp) (by simp) hrest)
  | cons c text ih =>
      by_cases hclose : ∃ r, longBasicBody run (c :: text) ++ '"' :: '"' :: '"' :: rest =
          '"' :: '"' :: '"' :: r
      · obtain ⟨r, hr⟩ := hclose
        have hthree : ¬ ['"', '"', '"'] <+: longBasicBody run (c :: text) := fun hprefix =>
          not_isPrefix_longBasicBody hrun (c :: text)
            (((List.prefix_replicate_iff (n := 3)).2 (by simp)).trans hprefix)
        obtain ⟨hlength, hquotes, rfl⟩ := eq_of_three_quotes hthree hr
        rw [hr, readLongBasic, closing_append hlength hquotes hrest, longBasicBody_eq_self hquotes]
      · rcases longBasicBody_cons run c text with ⟨rfl, hlt, h⟩ | ⟨rfl, h⟩ | h
        · rw [h] at hclose ⊢
          have hstep : readLongBasic false
              ('"' :: (longBasicBody (run + 1) text ++ '"' :: '"' :: '"' :: rest)) = _ :=
            readLongBasic_plain rfl (by decide) fun r hr => hclose ⟨r, hr⟩
          rw [List.cons_append, hstep, ih hlt]
          rfl
        · rw [h, List.cons_append, readLongBasic, ih (Nat.zero_le 2)]
          rfl
        · rw [h, List.append_assoc, readLongBasic_escape, ih (Nat.zero_le 2)]
          rfl

/-! ### Any text -/

theorem max_le_longestRun_go (c : Char) (text : Text) (run best : Nat) :
    max run best ≤ longestRun.go c text run best := by
  induction text generalizing run best with
  | nil => exact Nat.le_refl _
  | cons x text ih =>
      rw [longestRun.go]
      split
      · have := ih (run + 1) best
        omega
      · have := ih 0 (max run best)
        omega

theorem three_le_longestRun_go (c : Char) (u v : Text) (run best : Nat) :
    3 ≤ longestRun.go c (u ++ c :: c :: c :: v) run best := by
  induction u generalizing run best with
  | nil =>
      have := max_le_longestRun_go c v (run + 1 + 1 + 1) best
      simp only [List.nil_append, longestRun.go, if_true]
      omega
  | cons x u ih =>
      rw [List.cons_append, longestRun.go]
      split
      · exact ih _ _
      · exact ih _ _

theorem noThree_of_longestRun {c : Char} {text : Text} (h : longestRun c text ≤ 2) :
    NoThree c text := by
  rintro ⟨u, v, rfl⟩
  have := three_le_longestRun_go c u v 0 0
  simp only [longestRun, List.append_assoc, List.cons_append, List.nil_append] at h
  omega

/-- What stands behind a text in quotes is no quote. -/
def Unquoted (rest : Text) : Prop := rest.head? ≠ some '"' ∧ rest.head? ≠ some '\''

theorem dropLineEnd_eq_self {chars : Text} (hline : chars.head? ≠ some '\n')
    (hreturn : chars.head? ≠ some '\r') : dropLineEnd chars = chars := by
  unfold dropLineEnd
  split
  · exact absurd rfl hline
  · exact absurd rfl hreturn
  · rfl

theorem read?_eq_readShort? {chars : Text} (hdouble : ∀ r, chars ≠ '"' :: '"' :: '"' :: r)
    (hsingle : ∀ r, chars ≠ '\'' :: '\'' :: '\'' :: r) : read? chars = readShort? chars := by
  unfold read?
  split
  · exact absurd rfl (hdouble _)
  · exact absurd rfl (hsingle _)
  · rfl

theorem readShort?_basic (text rest : Text) :
    readShort? (basic text ++ rest) = some (text, rest) := by
  have hbasic : basic text ++ rest = '"' :: (basicBody text ++ '"' :: rest) := by simp [basic]
  rw [hbasic]
  exact readBasic_basicBody text rest

theorem readShort?_literal {text : Text} (h : ∀ c ∈ text, isPlain c = true ∧ c ≠ '\'')
    (rest : Text) : readShort? (literal text ++ rest) = some (text, rest) := by
  have hliteral : literal text ++ rest = '\'' :: (text ++ '\'' :: rest) := by simp [literal]
  rw [hliteral]
  exact readLiteral_append h rest

theorem read?_basic (text : Text) {rest : Text} (hrest : Unquoted rest) :
    read? (basic text ++ rest) = some (text, rest) := by
  rw [read?_eq_readShort?, readShort?_basic]
  · intro r hr
    have hbasic : basic text ++ rest = '"' :: (basicBody text ++ '"' :: rest) := by simp [basic]
    rw [hbasic] at hr
    cases text with
    | nil =>
        obtain rfl : rest = '"' :: r := by simpa [basicBody] using hr
        exact hrest.1 rfl
    | cons c text =>
        obtain ⟨x, w, hx, hquote, -⟩ := exists_escape_append c (basicBody text ++ '"' :: rest)
        have hbody : basicBody (c :: text) ++ '"' :: rest = x :: w := by
          rw [← hx]
          simp [basicBody]
        rw [hbody] at hr
        exact hquote (List.cons.inj (List.cons.inj hr).2).1
  · simp [basic]

theorem read?_literal {text rest : Text} (h : ∀ c ∈ text, isPlain c = true ∧ c ≠ '\'')
    (hrest : Unquoted rest) : read? (literal text ++ rest) = some (text, rest) := by
  rw [read?_eq_readShort?, readShort?_literal h]
  · simp [literal]
  · intro r hr
    have hliteral : literal text ++ rest = '\'' :: (text ++ '\'' :: rest) := by simp [literal]
    rw [hliteral] at hr
    cases text with
    | nil =>
        obtain rfl : rest = '\'' :: r := by simpa using hr
        exact hrest.2 rfl
    | cons c text => exact (h c List.mem_cons_self).2 (List.cons.inj (List.cons.inj hr).2).1

theorem read?_long_basic (text : Text) {rest : Text} (hrest : Unquoted rest) :
    read? (long '"' text (longBasicBody 0 text) ++ rest) = some (text, rest) := by
  have hread := readLongBasic_longBasicBody (Nat.zero_le 2) text hrest.1
  have hlong : long '"' text (longBasicBody 0 text) ++ rest = '"' :: '"' :: '"' ::
      ((if text.contains '\n' then ['\n'] else []) ++
        (longBasicBody 0 text ++ '"' :: '"' :: '"' :: rest)) := by
    simp [long, List.replicate]
  rw [hlong, read?, ← hread]
  split
  · rfl
  · next hline =>
    rw [List.nil_append, dropLineEnd_eq_self]
    all_goals
      cases text with
      | nil => simp [longBasicBody]
      | cons c text =>
          rcases longBasicBody_cons 0 c text with ⟨rfl, -, h⟩ | ⟨rfl, h⟩ | h
          · simp [h]
          · simp at hline
          · obtain ⟨x, w, hx, -, hnewline, hreturn⟩ :=
              exists_escape_append c (longBasicBody 0 text)
            simp [h, hx, hnewline, hreturn]

theorem read?_long_literal {text rest : Text} (h : ∀ c ∈ text, isPlain c = true ∨ c = '\n')
    (hthree : NoThree '\'' text) (hrest : Unquoted rest) :
    read? (long '\'' text text ++ rest) = some (text, rest) := by
  have hread := readLongLiteral_append h hthree hrest.2
  have hlong : long '\'' text text ++ rest = '\'' :: '\'' :: '\'' ::
      ((if text.contains '\n' then ['\n'] else []) ++
        (text ++ '\'' :: '\'' :: '\'' :: rest)) := by
    simp [long, List.replicate]
  rw [hlong, read?, ← hread]
  split
  · rfl
  · next hline =>
    rw [List.nil_append, dropLineEnd_eq_self]
    all_goals
      cases text with
      | nil => simp
      | cons c text =>
          have hc := h c List.mem_cons_self
          rintro ⟨⟩
          revert hc hline
          simp [isPlain]

theorem isPlain_or_newline {text : Text} (h : text.any isControl = false) :
    ∀ c ∈ text, isPlain c = true ∨ c = '\n' := by
  intro c hc
  by_cases hline : c = '\n'
  · exact .inr hline
  · exact .inl (isPlain_of_not_isControl (by simpa using List.any_eq_false.1 h c hc) hline)

/-- A text is read as it was written, in whichever form that is. -/
theorem read?_write (text : Text) {rest : Text} (hrest : Unquoted rest) :
    read? (write text ++ rest) = some (text, rest) := by
  simp only [write]
  split
  · exact read?_basic text hrest
  split
  · next h =>
    simp only [Bool.and_eq_true, Bool.not_eq_true', List.contains_eq_mem,
      decide_eq_false_iff_not] at h
    obtain ⟨⟨hcontrol, hquote⟩, hline⟩ := h
    refine read?_literal (fun c hc => ⟨?_, ?_⟩) hrest
    · exact (isPlain_or_newline hcontrol c hc).resolve_right fun heq => hline (heq ▸ hc)
    · exact fun heq => hquote (heq ▸ hc)
  split
  · exact read?_long_basic text hrest
  split
  · next h =>
    simp only [Bool.and_eq_true, Bool.not_eq_true', decide_eq_true_eq] at h
    exact read?_long_literal (isPlain_or_newline h.1) (noThree_of_longestRun h.2) hrest
  split
  · exact read?_long_basic text hrest
  · exact read?_basic text hrest

/-- A written text begins with a quote. -/
theorem exists_write_eq_cons (text : Text) :
    ∃ quote w, write text = quote :: w ∧ (quote = '"' ∨ quote = '\'') := by
  simp only [write]
  repeat' split
  all_goals simp [basic, literal, long, List.replicate]

/-! ### Names -/

/-- A name is written as it is, or in quotes on a single line. -/
theorem writeName_cases (name : Text) :
    (name ≠ [] ∧ (∀ c ∈ name, isBare c = true) ∧ writeName name = name) ∨
      ∃ quote w, writeName name = quote :: w ∧ (quote = '"' ∨ quote = '\'') ∧
        ∀ rest, readShort? (writeName name ++ rest) = some (name, rest) := by
  unfold writeName
  dsimp only
  split
  · next h =>
    simp only [Bool.and_eq_true, Bool.not_eq_true', List.isEmpty_eq_false_iff,
      List.all_eq_true] at h
    exact .inl ⟨h.1, h.2, rfl⟩
  refine .inr ?_
  split
  · exact ⟨_, _, rfl, .inl rfl, readShort?_basic name⟩
  split
  · next h =>
    simp only [Bool.and_eq_true, Bool.not_eq_true', List.contains_eq_mem, decide_eq_false_iff_not,
      List.any_eq_false, Bool.or_eq_true, beq_iff_eq, not_or, Bool.not_eq_true] at h
    refine ⟨_, _, rfl, .inr rfl, readShort?_literal fun c hc => ⟨?_, ?_⟩⟩
    · exact isPlain_of_not_isControl (h.1 c hc).1 (h.1 c hc).2
    · exact fun heq => h.2 (heq ▸ hc)
  · exact ⟨_, _, rfl, .inl rfl, readShort?_basic name⟩

end CodeMigration.Toml.Quoted
