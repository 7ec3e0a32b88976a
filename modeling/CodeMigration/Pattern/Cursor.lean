import CodeMigration.Text

/-!
# CodeMigration.Pattern.Cursor

Places in a text and the conditions that a place can meet without a character
being taken: ends of the text, of lines and of words.
-/

namespace CodeMigration

/-- A place in a text: what stands before it, nearest character first, and what
stands after it. -/
structure Cursor where
  /-- The characters before the place, nearest first. -/
  before : Text
  /-- The characters after the place. -/
  after : Text
  /-- How many characters stand before the place. -/
  offset : Nat
  /-- The count is that of the characters before the place. -/
  offset_eq : offset = before.length

namespace Cursor

/-- The start of a text. -/
def start (text : Text) : Cursor := ⟨[], text, 0, rfl⟩

/-- The place after the next character, when there is one. -/
def next? (c : Cursor) : Option Cursor :=
  match c.after with
  | [] => none
  | x :: rest => some ⟨x :: c.before, rest, c.offset + 1, by simp [c.offset_eq]⟩

/-- The whole text around the place. -/
def text (c : Cursor) : Text := c.before.reverse ++ c.after

/-- The characters between two places of one text. -/
def textUntil (c stop : Cursor) : Text := c.after.take (stop.offset - c.offset)

/-- The place behind the given word, when the word stands here. -/
def afterWord? : Text → Cursor → Option Cursor
  | [], c => some c
  | x :: word, c =>
    match c.after with
    | [] => none
    | y :: rest =>
      if x == y then
        afterWord? word ⟨y :: c.before, rest, c.offset + 1, by simp [c.offset_eq]⟩
      else none

@[simp] theorem text_start (text : Text) : (start text).text = text := rfl

theorem text_next? {c d : Cursor} (h : c.next? = some d) : d.text = c.text := by
  unfold next? at h
  split at h
  · simp at h
  · next x rest hafter =>
    simp only [Option.some.injEq] at h
    subst h
    simp [text, hafter]

theorem length_after_next? {c d : Cursor} (h : c.next? = some d) :
    d.after.length < c.after.length := by
  unfold next? at h
  split at h
  · simp at h
  · next x rest hafter =>
    simp only [Option.some.injEq] at h
    subst h
    simp [hafter]

end Cursor

/-- A condition on a place. -/
inductive Anchor
  /-- The start of the text. -/
  | textStart
  /-- The end of the text. -/
  | textEnd
  /-- The start of a line that a line feed ends. -/
  | lineStart
  /-- The end of a line that a line feed ends. -/
  | lineEnd
  /-- The start of a line that a line feed, a carriage return or both end. -/
  | anyLineStart
  /-- The end of a line that a line feed, a carriage return or both end. -/
  | anyLineEnd
  /-- A word character on exactly one side. -/
  | wordBoundary (isWord : Char → Bool)
  /-- Word characters on both sides or on none. -/
  | notWordBoundary (isWord : Char → Bool)
  /-- A word character after the place and none before it. -/
  | wordStart (isWord : Char → Bool)
  /-- A word character before the place and none after it. -/
  | wordEnd (isWord : Char → Bool)
  /-- No word character before the place. -/
  | wordStartHalf (isWord : Char → Bool)
  /-- No word character after the place. -/
  | wordEndHalf (isWord : Char → Bool)

namespace Anchor

/-- Does the nearest character, if there is one, pass the test? -/
def nearest (test : Char → Bool) (cs : Text) : Bool :=
  match cs with
  | [] => false
  | c :: _ => test c

/-- Does the place meet the condition? A pair of carriage return and line feed is
one line end, and no line starts or ends inside it. -/
def holds : Anchor → Cursor → Bool
  | textStart, p => p.before.isEmpty
  | textEnd, p => p.after.isEmpty
  | lineStart, p => p.before.isEmpty || nearest (· == '\n') p.before
  | lineEnd, p => p.after.isEmpty || nearest (· == '\n') p.after
  | anyLineStart, p =>
    p.before.isEmpty || nearest (· == '\n') p.before ||
      (nearest (· == '\r') p.before && !nearest (· == '\n') p.after)
  | anyLineEnd, p =>
    p.after.isEmpty || nearest (· == '\r') p.after ||
      (nearest (· == '\n') p.after && !nearest (· == '\r') p.before)
  | wordBoundary isWord, p => nearest isWord p.before != nearest isWord p.after
  | notWordBoundary isWord, p => nearest isWord p.before == nearest isWord p.after
  | wordStart isWord, p => !nearest isWord p.before && nearest isWord p.after
  | wordEnd isWord, p => nearest isWord p.before && !nearest isWord p.after
  | wordStartHalf isWord, p => !nearest isWord p.before
  | wordEndHalf isWord, p => !nearest isWord p.after

end Anchor

end CodeMigration
