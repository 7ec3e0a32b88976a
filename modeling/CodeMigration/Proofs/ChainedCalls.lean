import CodeMigration.Proofs.WrappedClients

/-!
# CodeMigration.Proofs.ChainedCalls

What the rule for calls makes of a value that goes on behind the call. The rule puts the raw
value on a line of its own and the call of the wrapper in its place. That is right where the
call is the whole value. Where it is only the start of a chain, the rest of the chain goes on
from the wrapper, and the word that awaited all of it awaits the call alone:

```text
const r = await createClient().from(t)   const client = await createClient()
                                         const r = typed(client).from(t)
```

The pattern ends with the call and does not see what follows. So the rule keeps the value
together just in texts without a declaration of this kind (`keepsScopeAt_iff`).
-/

namespace CodeMigration.TypedClient

open Lexeme Pattern

/-! ### Values that go on -/

/-- What a reading of source code is in. -/
inductive Layer
  /-- Code proper. -/
  | code
  /-- A comment that ends with the line. -/
  | lineComment
  /-- A comment that ends with a mark. -/
  | blockComment

/-- The first character of the code that is not white space. -/
def firstOf : Layer → Text → Option Char
  | _, [] => none
  | .code, '/' :: '/' :: rest => firstOf .lineComment rest
  | .code, '/' :: '*' :: rest => firstOf .blockComment rest
  | .code, c :: rest => if Unicode.isSpace c then firstOf .code rest else some c
  | .lineComment, c :: rest => firstOf (if c == '\n' then .code else .lineComment) rest
  | .blockComment, '*' :: '/' :: rest => firstOf .code rest
  | .blockComment, _ :: rest => firstOf .blockComment rest

/-- Does the text go on with an expression that ends before it, by a member, an element or a
call? -/
def goesOn (rest : Text) : Bool := (firstOf .code rest).any fun c => ['.', '[', '('].contains c

/-- Every declaration that the rule for calls replaces in the text has the call as its whole
value: the text right behind the call does not go on with it. -/
def KeepsScopeAt (settings : TypedClientSettings) (text : Text) : Prop :=
  ∀ m ∈ (callSite settings).pattern.matchesIn text, (callSite settings).replace m ≠ m.text →
    goesOn (m.group semicolonGroup ++ m.stop.after) = false

instance (settings : TypedClientSettings) (text : Text) :
    Decidable (KeepsScopeAt settings text) := inferInstanceAs (Decidable (∀ m ∈ _, _ → _))

/-- The rule for calls under the usual settings keeps values together just in texts where no
declaration that begins a line, of another name than that of the raw value, has a value that
goes on behind the call. -/
theorem keepsScopeAt_iff (text : Text) :
    KeepsScopeAt {} text ↔
      ∀ (u : Text) (d : Header) (c : Call "createClient".toList) (r : Text),
        text = u ++ (d.text ++ (c.text ++ r)) → EndsLine u → d.name ≠ "client".toList →
          goesOn r = false := by
  constructor
  · intro hkeeps u d c r htext hu hname
    obtain ⟨m, hm, hreplace, hrest⟩ := exists_mem_matchesIn wellNamed_default htext hu hname
    rw [← hrest]
    exact hkeeps m hm hreplace
  · intro hchains m hm hreplace
    obtain ⟨u, d, c, htext, hu, hname⟩ := exists_of_mem_matchesIn hm fun hname =>
      hreplace (wrapCall_of_eq hname)
    exact hchains u d c _ htext hu hname

-- A bracket behind the semicolon begins a statement, and a declaration of the raw value stays.
example : KeepsScopeAt {}
    "const a = createClient();\n(b)\nlet client = createClient() // raw\n  .from(t)\n".toList := by
  decide +kernel

/-- The word that awaits the whole chain awaits the call alone afterwards. -/
theorem not_keepsScopeAt_awaited_chain :
    ¬ KeepsScopeAt {} "const r = await createClient().from(t)\n".toList := by
  decide +kernel

end CodeMigration.TypedClient
