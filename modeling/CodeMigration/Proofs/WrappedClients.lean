import CodeMigration.Migration.TypedClient
import CodeMigration.Proofs.ImportedWrappers

/-!
# CodeMigration.Proofs.WrappedClients

What a second pass of the migration of clients finds in the result of a first. The references are
as they should be: the rule for them runs last, and it does not fire on its own result. The rule
for calls does not fire on its own result either, but it runs first, and what the others do behind
it can make a declaration out of what was none: the arguments of a call stand on one line, and to
redirect a reference that is broken over two lines joins them. So a second pass changes nothing
just if the first leaves no call to wrap and no import to add
(`idempotentAt_iff_no_unwrapped_call`).

The text shows in two cases that it is so: where only calls are to wrap, and where the wrapper comes
to be imported above the references to redirect, with each of these on one line (`Ready`). Then
neither of the later rules makes a call (`unwrapped_of_run_import`, `unwrapped_of_run_reference`),
and the import stays what it is (`isSatisfied_run_reference`).
-/

namespace CodeMigration.TypedClient

open Lexeme Pattern

theorem WellNamed.references {settings : TypedClientSettings} (hn : WellNamed settings) :
    (referenceRule settings).WellNamed where
  wrapper := hn.wrapper
  target := hn.intermediate
  accessor := hn.accessor
  target_ne := hn.intermediate_ne

theorem wellNamed_default : WellNamed {} where
  factory := ⟨'c', "reateClient".toList, rfl, by decide, List.all_eq_true.1 (by decide)⟩
  wrapper := ⟨'t', "yped".toList, rfl, by decide, List.all_eq_true.1 (by decide)⟩
  intermediate := ⟨'c', "lient".toList, rfl, by decide, List.all_eq_true.1 (by decide)⟩
  accessor := ⟨'a', "uth".toList, rfl, by decide, List.all_eq_true.1 (by decide)⟩
  wrapper_ne := by decide
  intermediate_ne := by decide

/-- The text after the rule for calls. -/
def wrapped (settings : TypedClientSettings) (text : Text) : Text :=
  (callSite settings).toRule.run text

/-- The text after the rules for calls and for the import. -/
def imported (settings : TypedClientSettings) (text : Text) : Text :=
  (importRule settings).toRule.run (wrapped settings text)

theorem after_migrate (settings : TypedClientSettings) (text : Text) :
    ((migration settings).migrate text).after =
      (referenceRule settings).toRule.run (imported settings text) := by
  show (runRules [(callSite settings).toRule, (importRule settings).toRule,
    (referenceRule settings).toRule] text).1 = _
  rw [runRules_cons_fst, runRules_cons_fst, runRules_cons_fst]
  rfl

/-- A second pass changes nothing if no rule fires on the result of the first. The rule for
references never does. -/
theorem idempotentAt_iff_fires {settings : TypedClientSettings} (hn : WellNamed settings)
    (text : Text) : (migration settings).IdempotentAt text ↔
      (callSite settings).toRule.fires ((migration settings).migrate text).after = false ∧
      (importRule settings).toRule.fires ((migration settings).migrate text).after = false := by
  have hreferences : (referenceRule settings).toRule.fires
      ((migration settings).migrate text).after = false := by
    rw [after_migrate]
    exact ReferenceRule.fires_run hn.references _
  rw [Migration.idempotentAt_iff]
  show (∀ rule ∈ [(callSite settings).toRule, (importRule settings).toRule,
    (referenceRule settings).toRule], rule.fires ((migration settings).migrate text).after = false) ↔ _
  simp only [List.forall_mem_cons, List.not_mem_nil, false_implies, implies_true, and_true,
    hreferences]

/-- What the migration makes of a text in which it has only calls to wrap stays. -/
theorem idempotentAt_of_only_calls {settings : TypedClientSettings} (hn : WellNamed settings)
    {text : Text} (himport : (importRule settings).toRule.fires (wrapped settings text) = false)
    (hreference : (referenceRule settings).toRule.fires (wrapped settings text) = false) :
    (migration settings).IdempotentAt text := by
  have hafter : ((migration settings).migrate text).after = wrapped settings text := by
    rw [after_migrate, imported, Rule.run_of_not_fires himport, Rule.run_of_not_fires hreference]
  rw [idempotentAt_iff_fires hn, hafter]
  exact ⟨fires_run_callSite hn text, himport⟩

/-! ### Passes that add the import and redirect references -/

/-- The references that the last rule redirects. -/
def redirections (settings : TypedClientSettings) (text : Text) : List Match :=
  let rule := referenceRule settings
  (rule.reference.matchesIn text).filter fun m => rule.redirect (rule.wrapped text) m != m.text

/-- The text is laid out so that redirecting references disturbs neither the import nor a call:
the import comes first, and none of the references is broken over lines. -/
structure Ready (settings : TypedClientSettings) (text : Text) : Prop where
  /-- An import list that gets the wrapper has entries, or is on one line. -/
  list : ListedOrFlat (importRule settings) (wrapped settings text)
  /-- The wrapper is imported above the references that are redirected. -/
  import_first : ∃ front rest, imported settings text = front ++ rest ∧
    (importRule settings).isSatisfied front = true ∧
    ∀ m ∈ redirections settings (imported settings text), front.length ≤ m.start.offset
  /-- Each of these references is on one line. -/
  on_line : ∀ m ∈ redirections settings (imported settings text), '\n' ∉ m.text

theorem mem_redirections {settings : TypedClientSettings} {text : Text} {m : Match} :
    m ∈ redirections settings text ↔ m ∈ (referenceRule settings).reference.matchesIn text ∧
      (referenceRule settings).redirect ((referenceRule settings).wrapped text) m ≠ m.text := by
  simp [redirections]

/-- An import above the references is still there when they are redirected. -/
theorem isSatisfied_run_reference {settings : TypedClientSettings}
    (hmodule : '\x7b' ∉ settings.wrapperModule.toList) {front rest : Text}
    (himport : (importRule settings).isSatisfied front = true)
    (hbehind : ∀ m ∈ redirections settings (front ++ rest), front.length ≤ m.start.offset) :
    (importRule settings).isSatisfied ((referenceRule settings).toRule.run (front ++ rest)) = true := by
  have hscan := scans_matchesIn (ReferenceRule.isPlain_reference (referenceRule settings))
    (ReferenceRule.isSolid_reference (referenceRule settings)) (front ++ rest)
  obtain ⟨rest', hrest⟩ := exists_spliceFrom_append hscan rfl fun m hm hne => by
    simpa using hbehind m (mem_redirections.2 ⟨hm, hne⟩)
  have happly : (referenceRule settings).apply (front ++ rest) = front ++ rest' := by
    rw [ReferenceRule.apply_eq_replaceAll, replaceAll_eq, hrest]
  rcases Rule.run_cases (referenceRule settings).toRule (front ++ rest) with h | h
  · rw [h]
    exact ImportRule.isSatisfied_append hmodule himport rest
  · rw [h, show (referenceRule settings).toRule.apply (front ++ rest) = _ from happly]
    exact ImportRule.isSatisfied_append hmodule himport rest'

/-- Redirecting references that are on one line leaves no call to wrap that was not there. -/
theorem unwrapped_of_run_reference {settings : TypedClientSettings} (hn : WellNamed settings)
    {text : Text} (hlines : ∀ m ∈ redirections settings text, '\n' ∉ m.text)
    (h : Unwrapped settings ((referenceRule settings).toRule.run text)) :
    Unwrapped settings text := by
  rcases Rule.run_cases (referenceRule settings).toRule text with hrun | hrun
  · rwa [hrun] at h
  obtain ⟨ps, hold, hnew, hall, -⟩ := ReferenceRule.exists_pieces
    ((referenceRule settings).wrapped text)
    (scans_matchesIn (ReferenceRule.isPlain_reference (referenceRule settings))
      (ReferenceRule.isSolid_reference (referenceRule settings)) text)
    ReferenceRule.unnamed_of_mem_matchesIn
  have hps : Piece.All (RedirectedLine (referenceRule settings)) ps := hall.imp fun o n ho => by
    obtain ⟨hredirected, m, hm, rfl, hredirect⟩ := ho
    refine ⟨hredirected, fun hmem => ?_⟩
    by_cases hne : (referenceRule settings).redirect
        ((referenceRule settings).wrapped text) m = m.text
    · rw [← hne, hredirect] at hmem
      exact newline_not_mem_redirected hn.references hmem
    · exact hlines m (mem_redirections.2 ⟨hm, hne⟩) hmem
  have happly : (referenceRule settings).toRule.apply text = Piece.newText ps := by
    rw [hnew]
    exact ReferenceRule.apply_eq_replaceAll _ text
  rw [hrun, happly] at h
  rw [← hold]
  exact unwrapped_oldText hn.references hn.factory hps h

/-- What the migration makes of a text that is laid out so stays. -/
theorem idempotentAt_of_ready {settings : TypedClientSettings} (hn : WellNamed settings)
    (hr : Uncalled (importRule settings)) (hmodule : '\x7b' ∉ settings.wrapperModule.toList)
    {text : Text} (h : Ready settings text) : (migration settings).IdempotentAt text := by
  rw [idempotentAt_iff_fires hn, after_migrate]
  constructor
  · rw [Bool.eq_false_iff]
    intro hfires
    have hunwrapped := unwrapped_of_run_import hr hn.factory h.list
      (unwrapped_of_run_reference hn h.on_line ((fires_callSite_iff_unwrapped hn _).1 hfires))
    have hagain := (fires_callSite_iff_unwrapped hn _).2 hunwrapped
    exact absurd hagain (Bool.eq_false_iff.1 (fires_run_callSite hn text))
  · obtain ⟨front, rest, htext, himport, hbehind⟩ := h.import_first
    rw [htext] at hbehind ⊢
    have hstrategy : (importRule settings).strategy
        ((referenceRule settings).toRule.run (front ++ rest)) = none := by
      rw [ImportRule.strategy, if_pos (isSatisfied_run_reference hmodule himport hbehind)]
    rw [Bool.eq_false_iff]
    intro hfires
    refine (Rule.fires_iff.1 hfires).2 ?_
    show (importRule settings).apply _ = _
    rw [ImportRule.apply, hstrategy]

theorem uncalled_default : Uncalled (importRule {}) where
  undeclared_name := ⟨[], 't', "yped".toList, rfl, by simp, by decide, by decide⟩
  name_free := by
    simp only [List.forall_mem_cons, List.not_mem_nil, false_implies, implies_true]
    decide
  module_free := by
    simp only [List.forall_mem_cons, List.not_mem_nil, false_implies, implies_true]
    decide

/-- A second pass changes nothing just if the first leaves no call to wrap, and the import is there
or cannot be added. So it is if the first has only wrapped calls, and also if the wrapper comes to be
imported above the references that are redirected, each of these is on one line, and no blank list
of names over several lines gets the wrapper. -/
theorem idempotentAt_iff_no_unwrapped_call (text : Text) :
    ((migration {}).IdempotentAt text ↔
      ¬ Unwrapped {} ((migration {}).migrate text).after ∧
      ¬ ((importRule {}).trigger.isMet ((migration {}).migrate text).after = true ∧
        ((importRule {}).strategy ((migration {}).migrate text).after).isSome = true)) ∧
    ((importRule {}).toRule.fires (wrapped {} text) = false →
      (referenceRule {}).toRule.fires (wrapped {} text) = false →
      (migration {}).IdempotentAt text) ∧
    (Ready {} text → (migration {}).IdempotentAt text) := by
  have hcalls := fires_callSite_iff_unwrapped wellNamed_default ((migration {}).migrate text).after
  have himports := (importRule {}).fires_iff_strategy ⟨'t', by decide, by decide, by decide⟩
    ((migration {}).migrate text).after
  have hresult := idempotentAt_iff_fires wellNamed_default text
  simp only [← Bool.not_eq_true, hcalls, himports] at hresult
  exact ⟨hresult, idempotentAt_of_only_calls wellNamed_default,
    idempotentAt_of_ready wellNamed_default uncalled_default (by decide)⟩

/-- In the first pass each of the three rules changes the text. -/
theorem idempotentAt_import_first :
    let text := "import 'a'\nlet d = createClient()\nd.auth.a()\n".toList
    Ready {} text ∧ wrapped {} text ≠ text ∧ imported {} text ≠ wrapped {} text ∧
      redirections {} (imported {} text) ≠ [] ∧ (migration {}).IdempotentAt text := by
  intro text
  let calls := "import 'a'\nlet client = createClient()\nlet d = typed(client)\nd.auth.a()\n".toList
  let front := "import { typed } from '@/lib/supabase/typed-client'\n".toList
  have hwrapped : wrapped {} text = calls := by decide +kernel
  have himported : imported {} text = front ++ calls := by
    rw [imported, hwrapped]
    decide +kernel
  have hplaces : (redirections {} (front ++ calls)).map (fun m => (m.start.offset, m.text)) =
      [(113, "d.auth.".toList)] := by decide +kernel
  have hplace : ∀ m ∈ redirections {} (imported {} text),
      front.length ≤ m.start.offset ∧ '\n' ∉ m.text := by
    intro m hm
    rw [himported] at hm
    have hmem := List.mem_map_of_mem (f := fun m => (m.start.offset, m.text)) hm
    rw [hplaces, List.mem_singleton, Prod.mk.injEq] at hmem
    rw [hmem.1, hmem.2]
    decide
  have hlist : ListedOrFlat (importRule {}) (wrapped {} text) := by
    intro s e hspan
    have hnone : (importRule {}).extendable? calls = none := by decide +kernel
    rw [hwrapped, hnone] at hspan
    cases hspan
  have hready : Ready {} text :=
    { list := hlist
      import_first := ⟨front, calls, himported, by decide +kernel, fun m hm => (hplace m hm).1⟩
      on_line := fun m hm => (hplace m hm).2 }
  refine ⟨hready, ?_, ?_, ?_, (idempotentAt_iff_no_unwrapped_call text).2.2 hready⟩
  · rw [hwrapped]
    exact fun hsame => absurd (congrArg List.length hsame) (by decide)
  · rw [himported, hwrapped]
    exact fun hsame => absurd (congrArg List.length hsame) (by decide)
  · rw [himported]
    intro hnil
    rw [hnil] at hplaces
    cases hplaces

/-- The arguments of a call that stood on two lines stand on one after the first pass. -/
theorem not_idempotentAt_reference_in_arguments :
    ¬ (migration {}).IdempotentAt
      "const x = typed(client)\nconst y = createClient(x\n.auth.foo)\n".toList := by
  decide +kernel

end CodeMigration.TypedClient
