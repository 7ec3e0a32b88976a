import CodeMigration.Proofs.DefaultImports
import CodeMigration.Proofs.Pieces
import CodeMigration.Proofs.RuleSequences
import Mathlib.Data.List.Nodup

/-!
# CodeMigration.Proofs.ImporterPasses

What the migration of importing files makes of a text. A default import of a changed module
gives way to a named one as a whole, and nothing else is touched. Since no import begins
inside another, the named imports neither hide nor make default imports, so one pass leaves
none behind (`not_occurs_apply`) and a second pass has nothing to do.

The modules are alternatives of one pattern, and of alternatives the first that goes through
wins. Their order makes no difference all the same: the quote behind a module says where it
ends, so only one of them can be there (`DefaultImport.append_inj`), and of modules with
different names only one has the name (`exportOf?_perm`).
-/

namespace CodeMigration

open Pattern Piece

/-- Two substitutions give the same result if their patterns fit at the same places, and take
and put in the same there. -/
theorem Pattern.Scans.spliceFrom_congr {p p' : Pattern} {replace replace' : Match → Text}
    (hfits : ∀ b a, p.Fits b a ↔ p'.Fits b a)
    (hsame : ∀ {b w r k w' r' k'}, p.Takes b w r k → p'.Takes b w' r' k' → w ++ r = w' ++ r' →
      w = w' ∧ replace (.taken b w r k) = replace' (.taken b w' r' k'))
    {b a : Text} {ms ms' : List Match} (h : Scans p b a ms) (h' : Scans p' b a ms') :
    spliceFrom replace (.between b a) ms = spliceFrom replace' (.between b a) ms' := by
  induction h generalizing ms' with
  | done =>
      rw [h'.eq_nil]
      rfl
  | @skip b a x ms hno hs ih =>
      have hs' := h'.of_not_fits fun hfit => hno ((hfits b _).2 hfit)
      rw [spliceFrom_skip fun m hm => hs.le_start m hm,
        spliceFrom_skip fun m hm => hs'.le_start m hm, ih hs']
  | @found b w r k ms _ ht _ _ ih =>
      obtain ⟨w', r', k', ms₁, heq, ht', -, rfl, hs'⟩ := h'.of_fits ((hfits b _).1 ht.fits)
      obtain ⟨rfl, hreplace⟩ := hsame ht ht' heq
      obtain rfl := List.append_cancel_left heq
      rw [spliceFrom_found, spliceFrom_found, hreplace, ih hs']

namespace NamedExports

open Lexeme

/-! ### Changed modules -/

/-- The module goes by the alias, its name can stand between quotes and has no space in it,
and it exports a name. -/
structure ConvertedModule.Importable (m : ConvertedModule) : Prop where
  /-- The module goes by the alias. -/
  aliased : importAlias.toList <+: m.specifier.toList
  /-- There are no quotes and no spaces in its name. -/
  plain : ∀ c ∈ m.specifier.toList, isQuote c = false ∧ Unicode.isSpace c = false
  /-- It exports a name. -/
  identifier_exported : Identifier m.exported.toList

/-- The names of the modules. -/
def specifiers (modules : List ConvertedModule) : List Text :=
  modules.map (·.specifier.toList)

theorem exists_of_exportOf? {modules : List ConvertedModule} {specifier : Text} {exported : String}
    (h : exportOf? modules specifier = some exported) :
    ∃ m ∈ modules, m.specifier.toList = specifier ∧ m.exported = exported := by
  obtain ⟨m, hm, rfl⟩ := Option.map_eq_some_iff.1 h
  exact ⟨m, List.mem_reverse.1 (List.mem_of_find?_eq_some hm), by simpa using List.find?_some hm,
    rfl⟩

theorem exists_exportOf? {modules : List ConvertedModule} {specifier : Text}
    (h : specifier ∈ specifiers modules) :
    ∃ exported, exportOf? modules specifier = some exported := by
  obtain ⟨m, hm, rfl⟩ := List.mem_map.1 h
  have hfound : (modules.reverse.find? fun n => n.specifier.toList == m.specifier.toList).isSome :=
    List.find?_isSome.2 ⟨m, List.mem_reverse.2 hm, beq_self_eq_true _⟩
  obtain ⟨n, hn⟩ := Option.isSome_iff_exists.1 hfound
  exact ⟨n.exported, by rw [exportOf?, hn]; rfl⟩

/-- Of modules with different names there is one at most that answers to a name. -/
theorem exportOf?_eq_some_iff {modules : List ConvertedModule}
    (hnodup : (modules.map (·.specifier)).Nodup) {specifier : Text} {exported : String} :
    exportOf? modules specifier = some exported ↔
      ∃ m ∈ modules, m.specifier.toList = specifier ∧ m.exported = exported := by
  refine ⟨exists_of_exportOf?, ?_⟩
  rintro ⟨m, hm, rfl, rfl⟩
  obtain ⟨exported, hexported⟩ := exists_exportOf? (List.mem_map_of_mem hm)
  obtain ⟨n, hn, hname, rfl⟩ := exists_of_exportOf? hexported
  obtain rfl := List.inj_on_of_nodup_map hnodup hn hm (String.toList_injective hname)
  exact hexported

theorem exportOf?_perm {modules modules' : List ConvertedModule} (hperm : modules.Perm modules')
    (hnodup : (modules.map (·.specifier)).Nodup) : exportOf? modules = exportOf? modules' := by
  have hnodup' := (hperm.map (·.specifier)).nodup_iff.1 hnodup
  funext specifier
  refine Option.ext fun exported => ?_
  simp only [exportOf?_eq_some_iff hnodup, exportOf?_eq_some_iff hnodup', hperm.mem_iff]

/-! ### What gives way to what -/

/-- A default import of a module gives way to a named one. -/
def Renamed (modules : List ConvertedModule) (o n : Text) : Prop :=
  ∃ (d : DefaultImport) (exported : String), exportOf? modules d.module = some exported ∧
    o = d.text ∧ n = d.named exported.toList

theorem takes_importNamed {modules : List ConvertedModule} {b w r : Text} {k : Captures}
    (h : (defaultImport (specifiers modules)).Takes b w r k) :
    ∃ (d : DefaultImport) (exported : String), exportOf? modules d.module = some exported ∧
      w = d.text ∧ importNamed modules (.taken b w r k) = d.named exported.toList := by
  obtain ⟨-, d, rfl, hm, hlocal, hopen, hmodule, hclose⟩ := takes_defaultImport h
  obtain ⟨exported, hexported⟩ := exists_exportOf? hm
  refine ⟨d, exported, hexported, rfl, ?_⟩
  simp only [importNamed, hmodule, hexported, hlocal, hopen, hclose]
  simp [DefaultImport.named, DefaultImport.binding, importWord, fromWord, asWord]

theorem Renamed.begins_old {modules : List ConvertedModule} {o n : Text} (h : Renamed modules o n)
    (t : Text) : Begins (o ++ t) := by
  obtain ⟨d, exported, -, rfl, -⟩ := h
  exact d.begins t

theorem Renamed.begins_new {modules : List ConvertedModule} {o n : Text} (h : Renamed modules o n)
    (t : Text) : Begins (n ++ t) := by
  obtain ⟨d, exported, -, -, rfl⟩ := h
  exact d.begins_named _ t

/-- Wherever there is a default import of a module there is the alias. -/
theorem isMet_importersRule {modules : List ConvertedModule}
    (haliased : ∀ m ∈ modules, importAlias.toList <+: m.specifier.toList) {text : Text}
    (h : (defaultImport (specifiers modules)).Occurs [] text) :
    (importersRule modules).trigger.isMet text = true := by
  obtain ⟨u, v, rfl, hfits⟩ := h
  obtain ⟨-, d, r, rfl, hd⟩ := fits_defaultImport_iff.1 hfits
  obtain ⟨m, hm, hname⟩ := List.mem_map.1 hd
  obtain ⟨z, hz⟩ := haliased m hm
  rw [importersRule, Trigger.isMet_requiring, Text.occurs_iff]
  refine ⟨u ++ importWord ++ d.gap ++ d.localName ++ d.nameGap ++ fromWord ++ d.quoteGap ++
    [d.opening], z ++ d.closing :: r, ?_⟩
  rw [d.text_append, ← hname, ← hz]
  simp

section

variable {modules : List ConvertedModule} (hmodules : ∀ m ∈ modules, m.Importable)

include hmodules

theorem plain_of_mem_specifiers {specifier : Text} (h : specifier ∈ specifiers modules) :
    ∀ c ∈ specifier, isQuote c = false ∧ Unicode.isSpace c = false := by
  obtain ⟨m, hm, rfl⟩ := List.mem_map.1 h
  exact (hmodules m hm).plain

/-- No import begins inside the default or the named import. -/
theorem Renamed.eq_cons {o n : Text} (h : Renamed modules o n) :
    (∃ w, o = 'i' :: w ∧ Never Begins w) ∧ ∃ w, n = 'i' :: w ∧ Never Begins w := by
  obtain ⟨d, exported, hexported, rfl, rfl⟩ := h
  obtain ⟨m, hm, hname, rfl⟩ := exists_of_exportOf? hexported
  have hplain := hname ▸ (hmodules m hm).plain
  exact ⟨d.never_begins_tail hplain,
    d.never_begins_named hplain (hmodules m hm).identifier_exported⟩

/-- A default import at a character that stays is there in the new text too. -/
theorem exists_defaultImport_newText {c : Char} {ps : List Piece}
    (hps : All (fun o _ => ∀ t, Begins (o ++ t)) ps) {d : DefaultImport} {r : Text}
    (hd : d.module ∈ specifiers modules) (h : c :: oldText ps = d.text ++ r) :
    ∃ r', c :: newText ps = d.text ++ r' := by
  obtain ⟨w, hw, hnever⟩ := d.never_begins_tail (plain_of_mem_specifiers hmodules hd)
  rw [hw] at h ⊢
  obtain ⟨rfl, hold⟩ := List.cons.inj h
  -- the import stays, for no other begins in it
  obtain ⟨qs, rfl, -⟩ := eq_kept_append hold fun o n hmem u v huv hv ⟨t, ht⟩ =>
    hnever u v r huv hv (ht ▸ hps o n hmem t)
  exact ⟨newText qs, by simp⟩

/-- The default imports of the new text are those of the old text at characters that stay. -/
theorem steady_defaultImport :
    Steady (defaultImport (specifiers modules)) (Renamed modules) Kind.SameEdge where
  solid := by
    intro b h
    obtain ⟨-, d, r, heq, -⟩ := fits_defaultImport_iff.1 h
    simp [DefaultImport.text] at heq
  fits_kept := by
    intro b b' c ps hb hps
    rw [fits_defaultImport_iff, fits_defaultImport_iff, ← hb]
    refine and_congr_right fun _ => ⟨?_, ?_⟩
    · rintro ⟨d, r, heq, hd⟩
      rw [← oldText_map_flip] at heq
      obtain ⟨r', hr'⟩ := exists_defaultImport_newText hmodules
        (hps.flip fun o n hQ => hQ.begins_new) hd heq
      exact ⟨d, r', by rw [← hr', newText_map_flip], hd⟩
    · rintro ⟨d, r, heq, hd⟩
      obtain ⟨r', hr'⟩ := exists_defaultImport_newText hmodules
        (fun o n hmem => (hps o n hmem).begins_old) hd heq
      exact ⟨d, r', hr', hd⟩
  not_fits_new := by
    intro b' o n ps hQ _ u v huv hv hfits
    obtain ⟨-, e, r, heq, -⟩ := fits_defaultImport_iff.1 hfits
    cases u with
    | nil =>
        obtain rfl : n = v := huv
        obtain ⟨d, exported, -, -, rfl⟩ := hQ
        exact d.named_append_ne e heq
    | cons c u =>
        obtain ⟨-, w, rfl, hnever⟩ := hQ.eq_cons hmodules
        obtain ⟨rfl, hw⟩ := List.cons.inj huv
        exact hnever u v _ hw hv (heq ▸ e.begins r)
  agree_kept := fun _ _ _ _ => rfl
  agree_swapped := by
    rintro b b' _ _ - ⟨d, exported, -, rfl, rfl⟩
    simp [Kind.SameEdge, DefaultImport.text, DefaultImport.named, Anchor.nearest]

theorem cuts_defaultImport :
    Cuts (defaultImport (specifiers modules)) (importNamed modules) (Renamed modules) where
  cut := by
    intro b w r k h
    obtain ⟨d, exported, hexported, rfl, hnamed⟩ := takes_importNamed h
    refine ⟨d.text, d.named exported.toList, [], by simp, by simp [hnamed], ?_,
      ⟨d, exported, hexported, rfl, rfl⟩, All.map_kept []⟩
    simp [DefaultImport.text]
  not_fits_inside := by
    intro b o n u v t hQ huv hu hv hfits
    obtain ⟨-, e, r, heq, -⟩ := fits_defaultImport_iff.1 hfits
    obtain ⟨⟨w, rfl, hnever⟩, -⟩ := hQ.eq_cons hmodules
    cases u with
    | nil => exact hu rfl
    | cons c u =>
        obtain ⟨rfl, hw⟩ := List.cons.inj huv
        exact hnever u v t hw hv (heq ▸ e.begins r)

/-- No match of the pattern for default imports hides another. -/
theorem not_hides_defaultImport {b w r : Text} {k : Captures}
    (h : (defaultImport (specifiers modules)).Takes b w r k) :
    ¬ (defaultImport (specifiers modules)).Hides (.taken b w r k) := by
  obtain ⟨d, exported, hexported, rfl, -⟩ := takes_importNamed h
  rintro ⟨u, v, huv, hu, hv, hfits⟩
  rw [Match.text_taken] at huv
  exact (cuts_defaultImport hmodules).not_fits_inside b _ _ u v r
    ⟨d, exported, hexported, rfl, rfl⟩ huv hu hv hfits

/-- What a pass makes of a text: default imports of the modules give way to named ones, and
none of them is left at a character that stays. -/
theorem exists_pieces_importersRule (text : Text) :
    ∃ ps, oldText ps = text ∧ newText ps = (importersRule modules).apply text ∧
      All (Renamed modules) ps ∧ ¬ (defaultImport (specifiers modules)).FitsAtKept [] ps [] := by
  have hscan := scans_matchesIn (isPlain_defaultImport (specifiers modules))
    (isSolid_defaultImport (specifiers modules)) text
  obtain ⟨ps, hold, hnew, hall, hkept⟩ := (cuts_defaultImport hmodules).exists_pieces hscan
  refine ⟨ps, hold, hnew, hall, ?_⟩
  rw [hkept]
  rintro ⟨m, hm, hhides⟩
  obtain ⟨b, w, r, k, rfl, htakes, -⟩ := hscan.exists_taken m hm
  exact not_hides_defaultImport hmodules htakes hhides

theorem not_occurs_apply (text : Text) :
    ¬ (defaultImport (specifiers modules)).Occurs [] ((importersRule modules).apply text) := by
  obtain ⟨ps, -, hnew, hall, hkept⟩ := exists_pieces_importersRule hmodules text
  rwa [← hnew, (steady_defaultImport hmodules).occurs_newText_iff hall rfl]

theorem after_migrate_importers (text : Text) :
    ((importersMigration modules).migrate text).after = (importersRule modules).apply text := by
  have hplain := isPlain_defaultImport (specifiers modules)
  have hrun : (importersRule modules).toRule.run text = (importersRule modules).apply text :=
    Substitution.run_eq_apply hplain
      (fun _ => isMet_importersRule fun m hm => (hmodules m hm).aliased) text
  unfold importersMigration importersRules
  cases modules with
  | nil =>
      -- without modules there is no rule, and nothing that the rule would find
      refine (Substitution.apply_of_not_occurs hplain ?_).symm
      rintro ⟨u, v, -, hfits⟩
      obtain ⟨-, d, r, -, hd⟩ := fits_defaultImport_iff.1 hfits
      cases hd
  | cons m modules =>
      rw [← hrun]
      exact runRules_cons_fst _ [] text

/-- A second pass finds nothing to do. -/
theorem changed_migrate_importers (text : Text) :
    ((importersMigration modules).migrate ((importersRule modules).apply text)).changed =
      false := by
  have hself := Substitution.apply_of_not_occurs (s := importersRule modules)
    (isPlain_defaultImport _) (not_occurs_apply hmodules text)
  rw [Migration.changed_eq_false_iff]
  intro rule hrule
  obtain rfl : rule = (importersRule modules).toRule := by
    unfold importersMigration importersRules at hrule
    split at hrule
    · cases hrule
    · exact List.mem_singleton.1 hrule
  exact .inr hself

end

/-- The order of modules with different names makes no difference to the rule. -/
theorem toRule_importersRule_perm {modules modules' : List ConvertedModule}
    (hmodules : ∀ m ∈ modules, m.Importable) (hperm : modules.Perm modules')
    (hnodup : (modules.map (·.specifier)).Nodup) :
    (importersRule modules).toRule = (importersRule modules').toRule := by
  have hexport := exportOf?_perm hperm hnodup
  have hspecifiers : ∀ {s}, s ∈ specifiers modules ↔ s ∈ specifiers modules' :=
    (hperm.map _).mem_iff
  have happly : (importersRule modules).apply = (importersRule modules').apply := by
    funext text
    refine Scans.spliceFrom_congr (fun b a => ?_) (fun htakes htakes' heq => ?_)
      (scans_matchesIn (isPlain_defaultImport (specifiers modules)) (isSolid_defaultImport _) text)
      (scans_matchesIn (isPlain_defaultImport (specifiers modules')) (isSolid_defaultImport _) text)
    · rw [fits_defaultImport_iff, fits_defaultImport_iff]
      simp only [hspecifiers]
    · obtain ⟨d, x, hx, rfl, hnamed⟩ := takes_importNamed htakes
      obtain ⟨e, y, hy, rfl, hnamed'⟩ := takes_importNamed htakes'
      rw [← hexport] at hy
      have hplain : ∀ {z : DefaultImport} {s : String}, exportOf? modules z.module = some s →
          ∀ c ∈ z.module, isQuote c = false := by
        intro z s hz c hc
        obtain ⟨m, hm, hname, -⟩ := exists_of_exportOf? hz
        exact ((hmodules m hm).plain c (hname ▸ hc)).1
      obtain ⟨rfl, rfl⟩ := DefaultImport.append_inj (hplain hx) (hplain hy) heq
      obtain rfl : x = y := Option.some.inj (hx.symm.trans hy)
      exact ⟨rfl, hnamed.trans hnamed'.symm⟩
  rw [Substitution.toRule, Substitution.toRule, happly]
  rfl

theorem importersMigration_perm {modules modules' : List ConvertedModule}
    (hmodules : ∀ m ∈ modules, m.Importable) (hperm : modules.Perm modules')
    (hnodup : (modules.map (·.specifier)).Nodup) :
    importersMigration modules = importersMigration modules' := by
  have hempty : modules.isEmpty = modules'.isEmpty := by
    rw [Bool.eq_iff_iff, List.isEmpty_iff, List.isEmpty_iff]
    exact ⟨fun h => (h ▸ hperm).nil_eq.symm, fun h => (h ▸ hperm).eq_nil⟩
  unfold importersMigration importersRules
  rw [hempty, toRule_importersRule_perm hmodules hperm hnodup]

/-- One pass over an importing file. Its result has no default import of a listed module, so
a second pass changes nothing. The order in which modules with different names are listed
makes no difference. And nothing else has happened: the text and the result are spelled by
the same characters, apart from default imports of listed modules that have given way to
named ones, and every default import of a listed module is among these. -/
theorem migrate_importers (modules : List ConvertedModule)
    (hmodules : ∀ m ∈ modules, m.Importable) (text : Text) :
    let result := ((importersMigration modules).migrate text).after
    (∀ (b a : Text) (d : DefaultImport), result = b ++ d.text ++ a →
      (Anchor.wordBoundary Unicode.isWord).holds (.between b.reverse (d.text ++ a)) = true →
      ∀ m ∈ modules, m.specifier.toList ≠ d.module) ∧
    ((importersMigration modules).migrate result).changed = false ∧
    (∀ modules' : List ConvertedModule, modules.Perm modules' →
      (modules.map (·.specifier)).Nodup →
      (importersMigration modules').migrate text = (importersMigration modules).migrate text) ∧
    ∃ ps, oldText ps = text ∧ newText ps = result ∧ All (Renamed modules) ps ∧
      ¬ (defaultImport (specifiers modules)).FitsAtKept [] ps [] := by
  intro result
  have hresult : result = (importersRule modules).apply text :=
    after_migrate_importers hmodules text
  clear_value result
  subst hresult
  refine ⟨fun b a d heq hboundary m hm hname => ?_, changed_migrate_importers hmodules text,
    fun modules' hperm hnodup => ?_, exists_pieces_importersRule hmodules text⟩
  · refine not_occurs_apply hmodules text ⟨b, d.text ++ a, by rw [heq, List.append_assoc], ?_⟩
    rw [d.text_append, holds_boundary_import] at hboundary
    rw [List.append_nil]
    exact fits_defaultImport_iff.2 ⟨hboundary, d, a, rfl, List.mem_map.2 ⟨m, hm, hname⟩⟩
  · rw [importersMigration_perm hmodules hperm hnodup]

/-- One module's name is the start of the other's, and each is imported under the name that
it is to have. -/
theorem migrate_importers_nested :
    let modules : List ConvertedModule := [⟨"@/a", "A"⟩, ⟨"@/a/b", "B"⟩]
    let text := "import A from '@/a/b'\nimport  A from '@/a';".toList
    let result := ((importersMigration modules).migrate text).after
    result = "import \x7b B as A \x7d from '@/a/b'\nimport \x7b A \x7d from '@/a';".toList ∧
      ((importersMigration modules).migrate result).changed = false ∧
      (importersMigration modules.reverse).migrate text =
        (importersMigration modules).migrate text := by
  intro modules text result
  have hmodules : ∀ m ∈ modules, m.Importable := by
    refine List.forall_mem_cons.2
      ⟨⟨by decide +kernel, forall_plain_iff.1 (by decide +kernel), ?_⟩, List.forall_mem_singleton.2
        ⟨by decide +kernel, forall_plain_iff.1 (by decide +kernel), ?_⟩⟩ <;>
    exact ⟨_, [], rfl, by decide, by simp⟩
  obtain ⟨-, hsecond, hperm, -⟩ := migrate_importers modules hmodules text
  exact ⟨by decide +kernel, hsecond, hperm _ modules.reverse_perm.symm (by decide +kernel)⟩

end NamedExports

end CodeMigration
