import CodeMigration.Proofs.Catalogs
import CodeMigration.Proofs.RuleSequences
import Mathlib.Data.List.Nodup

/-!
# CodeMigration.Proofs.AppliedIds

Which ids a run reports. It reports those of the rules that fire, each at its turn
(`mem_runRules_snd_iff`), so an id is reported twice just if two rules that have it fire in the same
run (`nodup_runRules_snd_iff`).

The rules of a built-in migration have different ids, whatever the settings are
(`Catalog.nodup_ruleIds_builtin`). Those of a custom migration have the ids that the settings give
them, and settings in which two rules of a migration share an id are loaded like all others. So an
id can be reported twice by custom migrations, and by no others (`Catalog.appliedOnceAt_iff`).
-/

namespace CodeMigration

/-! ### Rules that fire in a run -/

/-- Does the rule at the index fire in a run over the text? It is given what the rules before it
have made of the text. -/
def firesAt (rules : List Rule) (text : Text) (index : Nat) : Bool :=
  rules[index]?.any fun rule => rule.fires (runRules (rules.take index) text).1

section

variable {rule : Rule} {rules : List Rule} {text : Text}

theorem firesAt_zero : firesAt (rule :: rules) text 0 = rule.fires text := rfl

theorem firesAt_succ (index : Nat) :
    firesAt (rule :: rules) text (index + 1) = firesAt rules (rule.run text) index := by
  unfold firesAt
  rw [List.getElem?_cons_succ, List.take_succ_cons, runRules_cons_fst]

/-- The ids that a run reports are those of the rules that fire. -/
theorem mem_runRules_snd_iff {id : String} :
    id ∈ (runRules rules text).2 ↔
      ∃ index, firesAt rules text index = true ∧ (rules.map (·.id))[index]? = some id := by
  induction rules generalizing text with
  | nil => simp [runRules]
  | cons rule rules ih =>
      rw [runRules_cons, List.mem_append, ih, List.map_cons]
      constructor
      · intro h
        rcases h with hfirst | ⟨index, hfires, hid⟩
        · cases hfires : rule.fires text with
          | true =>
              rw [hfires, if_pos rfl, List.mem_singleton] at hfirst
              exact ⟨0, hfires, by rw [hfirst]; rfl⟩
          | false =>
              rw [hfires] at hfirst
              cases hfirst
        · exact ⟨index + 1, by rwa [firesAt_succ], hid⟩
      · intro h
        obtain ⟨index, hfires, hid⟩ := h
        cases index with
        | zero =>
            rw [firesAt_zero] at hfires
            cases hid
            exact .inl (by rw [hfires]; exact List.mem_singleton_self _)
        | succ index =>
            rw [firesAt_succ] at hfires
            exact .inr ⟨index, hfires, hid⟩

/-- No id is reported twice just if rules that fire in the same run have different ids. -/
theorem nodup_runRules_snd_iff :
    (runRules rules text).2.Nodup ↔
      ∀ i j, i < j → firesAt rules text i = true → firesAt rules text j = true →
        (rules.map (·.id))[i]? ≠ (rules.map (·.id))[j]? := by
  induction rules generalizing text with
  | nil => simp [runRules, firesAt]
  | cons rule rules ih =>
      have hcons : (runRules (rule :: rules) text).2.Nodup ↔
          (rule.fires text = true → rule.id ∉ (runRules rules (rule.run text)).2) ∧
            (runRules rules (rule.run text)).2.Nodup := by
        rw [runRules_cons]
        cases rule.fires text <;> simp
      rw [hcons, ih]
      -- Either the first rule is one of the two, or both are behind it.
      constructor
      · intro h i j hlt hi hj hshared
        obtain ⟨hfirst, hrest⟩ := h
        obtain ⟨j, rfl⟩ : ∃ k, j = k + 1 := ⟨j - 1, by omega⟩
        rw [firesAt_succ] at hj
        cases i with
        | zero => exact hfirst hi (mem_runRules_snd_iff.2 ⟨j, hj, hshared.symm⟩)
        | succ i =>
            rw [firesAt_succ] at hi
            exact hrest i j (by omega) hi hj hshared
      · intro h
        refine ⟨fun hi hmem => ?_, fun i j hlt hi hj => ?_⟩
        · obtain ⟨j, hj, hid⟩ := mem_runRules_snd_iff.1 hmem
          exact h 0 (j + 1) (by omega) hi (by rwa [firesAt_succ]) hid.symm
        · exact h (i + 1) (j + 1) (by omega) (by rwa [firesAt_succ]) (by rwa [firesAt_succ])

end

namespace Catalog

variable {settings : Settings} {name : String} {migration : Migration}

/-! ### The ids of loaded rules -/

theorem noneTaken_of_validate (h : validate settings = .ok ()) : NoneTaken settings := by
  intro other hother
  rw [validate] at h
  cases hfind : (settings.migrations.map (·.1)).find? isBuiltin with
  | none => simpa using List.find?_eq_none.1 hfind other hother
  | some taken =>
      rw [hfind] at h
      cases h

/-- Settings from which a migration loads take no name of a built-in one, in whatever order they
list their migrations. -/
theorem noneTaken_of_load_eq_ok (hload : load name settings = .ok migration) :
    NoneTaken settings := by
  cases hvalid : validate settings with
  | ok _ => exact noneTaken_of_validate hvalid
  | error cause =>
      rw [load, hvalid] at hload
      cases hload

/-- The rules of a built-in migration have different ids. -/
theorem nodup_ruleIds_builtin (hload : load name settings = .ok migration)
    (hname : name ∈ builtinNames) : migration.ruleIds.Nodup := by
  have hreference : ∀ front id : String, ¬ "-reference".toList <:+ id.toList →
      front ++ "-reference" ≠ id := by
    intro front id hsuffix heq
    rw [← heq, String.toList_append] at hsuffix
    exact hsuffix (List.suffix_append _ _)
  have hnone := noneTaken_of_load_eq_ok hload
  simp only [builtinNames, List.mem_cons, List.not_mem_nil, or_false] at hname
  rcases hname with rfl | rfl | rfl
  · obtain rfl := eq_of_load_builtin hnone (by rw [builtin?, if_pos rfl]) hload
    -- The accessor is part of an id, but that id still ends like no other.
    have hcall := hreference (TypedClient.name ++ "/" ++ settings.typedClient.accessor)
      (TypedClient.name ++ "/call-site") (by decide)
    have himport := hreference (TypedClient.name ++ "/" ++ settings.typedClient.accessor)
      (TypedClient.name ++ "/import") (by decide)
    have hids : (TypedClient.migration settings.typedClient).ruleIds =
        [TypedClient.name ++ "/call-site", TypedClient.name ++ "/import",
          TypedClient.name ++ "/" ++ settings.typedClient.accessor ++ "-reference"] := rfl
    have hother : TypedClient.name ++ "/call-site" ≠ TypedClient.name ++ "/import" := by decide
    rw [hids]
    simp [hother, hcall.symm, himport.symm]
  · obtain rfl := eq_of_load_builtin hnone
      (by rw [builtin?, if_neg (by decide), if_pos rfl]) hload
    show ["prefetch-link/import", "prefetch-link/expression-attr",
      "prefetch-link/string-attr"].Nodup
    decide
  · obtain rfl := eq_of_load_builtin hnone
      (by rw [builtin?, if_neg (by decide), if_neg (by decide), if_pos rfl]) hload
    show ["named-exports/function", "named-exports/class",
      "named-exports/trailing-default"].Nodup
    decide

theorem injective_ruleId (name : String) : Function.Injective (name ++ "/" ++ ·) :=
  fun _ _ heq => (String.append_right_inj _).1 heq

/-- The rules of a custom migration have the ids that the settings give them. -/
theorem ruleIds_eq_map (hload : load name settings = .ok migration) {entry : CustomMigration}
    (hlookup : settings.migrations.lookup name = some entry) :
    migration.ruleIds = (entry.rules.map (·.id)).map (name ++ "/" ++ ·) := by
  rw [load_custom (noneTaken_of_load_eq_ok hload) hlookup] at hload
  cases hfind : entry.rules.find? (!·.isReadable) with
  | some rule =>
      rw [custom_of_find? hfind] at hload
      cases hload
  | none =>
      have hrules : ∀ rule ∈ entry.rules, rule.isReadable = true := by
        simpa using List.find?_eq_none.1 hfind
      obtain ⟨loaded, hloaded, -, hids⟩ := custom_of_isReadable hrules name
      rw [hloaded] at hload
      cases hload
      rw [hids, List.map_map]
      rfl

/-- Rules of a custom migration share their ids just if the settings give them the same one. -/
theorem getElem?_ruleIds_eq_iff (hload : load name settings = .ok migration)
    {entry : CustomMigration} (hlookup : settings.migrations.lookup name = some entry) (i j : Nat) :
    migration.ruleIds[i]? = migration.ruleIds[j]? ↔
      (entry.rules.map (·.id))[i]? = (entry.rules.map (·.id))[j]? := by
  rw [ruleIds_eq_map hload hlookup, List.getElem?_map (i := i) (l := entry.rules.map (·.id)),
    List.getElem?_map (i := j) (l := entry.rules.map (·.id))]
  exact (Option.map_injective (injective_ruleId name)).eq_iff

theorem mem_builtinNames_of_lookup (hload : load name settings = .ok migration)
    (hlookup : settings.migrations.lookup name = none) : name ∈ builtinNames := by
  by_contra hname
  have hunlisted : name ∉ available settings := by
    rw [available, List.mem_append, not_or]
    exact ⟨hname, lookup_eq_none_iff.1 hlookup⟩
  rw [load_unlisted (noneTaken_of_load_eq_ok hload) hunlisted] at hload
  cases hload

/-! ### Ids that are reported twice -/

/-- The migration of the name, if it can be loaded, reports no id twice when it runs over the
text. -/
def AppliedOnceAt (settings : Settings) (name : String) (text : Text) : Prop :=
  ∀ migration, load name settings = .ok migration → (migration.migrate text).applied.Nodup

/-- If the settings give the rules of the migration different ids, or none because it is built in,
no text makes it report one of them twice. -/
theorem appliedOnceAt_of_nodup (h : ∀ entry, settings.migrations.lookup name = some entry →
    (entry.rules.map (·.id)).Nodup) (text : Text) : AppliedOnceAt settings name text := by
  intro migration hload
  have hids : migration.ruleIds.Nodup := by
    cases hlookup : settings.migrations.lookup name with
    | none => exact nodup_ruleIds_builtin hload (mem_builtinNames_of_lookup hload hlookup)
    | some entry =>
        rw [ruleIds_eq_map hload hlookup]
        exact List.Nodup.map (injective_ruleId name) (h entry hlookup)
  exact hids.sublist (runRules_snd_sublist _ _)

/-- Two rules of the custom migration of the name share an id, and both fire on the text. -/
def FiresTwiceAt (settings : Settings) (name : String) (text : Text) : Prop :=
  ∃ migration entry, load name settings = .ok migration ∧
    settings.migrations.lookup name = some entry ∧
    ∃ i j, i < j ∧ firesAt migration.rules text i = true ∧ firesAt migration.rules text j = true ∧
      (entry.rules.map (·.id))[i]? = (entry.rules.map (·.id))[j]?

/-- An id is reported twice just if two rules of a custom migration share it and both fire. -/
theorem appliedOnceAt_iff {text : Text} :
    AppliedOnceAt settings name text ↔ ¬ FiresTwiceAt settings name text := by
  constructor
  · intro honce htwice
    obtain ⟨migration, entry, hload, hlookup, i, j, hlt, hi, hj, hshared⟩ := htwice
    exact nodup_runRules_snd_iff.1 (honce migration hload) i j hlt hi hj
      ((getElem?_ruleIds_eq_iff hload hlookup i j).2 hshared)
  · intro hnone migration hload
    cases hlookup : settings.migrations.lookup name with
    | none => exact appliedOnceAt_of_nodup (by simp [hlookup]) text migration hload
    | some entry =>
        refine nodup_runRules_snd_iff.2 fun i j hlt hi hj hshared => ?_
        exact hnone ⟨migration, entry, hload, hlookup, i, j, hlt, hi, hj,
          (getElem?_ruleIds_eq_iff hload hlookup i j).1 hshared⟩

/-- Two rules of one id fire one after the other, the second on what the first has written. -/
theorem not_appliedOnceAt_shared_id :
    let first : CustomRule := { id := "a", pattern := "x", replacement := "y" }
    let second : CustomRule := { id := "a", pattern := "y", replacement := "z" }
    ¬ AppliedOnceAt { migrations := [("m", { rules := [first, second] })] } "m" ['x'] := by
  intro first second honce
  have happlied : (load "m" { migrations := [("m", { rules := [first, second] })] }).toOption.map
      (fun migration => (migration.migrate ['x']).applied) = some ["m/a", "m/a"] := by
    decide +kernel
  cases hload : load "m" { migrations := [("m", { rules := [first, second] })] } with
  | error cause =>
      rw [hload] at happlied
      cases happlied
  | ok migration =>
      rw [hload] at happlied
      have hids : (migration.migrate ['x']).applied = ["m/a", "m/a"] := Option.some.inj happlied
      have hnodup := honce migration hload
      rw [hids] at hnodup
      exact absurd hnodup (by decide)

end Catalog

end CodeMigration
