import CodeMigration.Proofs.OpenTables
import CodeMigration.Proofs.WrittenDocuments
import CodeMigration.Settings.Document

/-!
# CodeMigration.Proofs.SettingsTables

Settings as tables. The statements that spell out settings add up to a table with all their
values (`toTable?_statements`), and the settings that the table stands for are the same
again (`ofTable?_table`), as long as the custom migrations are in the order of their names.
Settings that were read from a table are (`ordered_of_ofTable?`).
-/

namespace CodeMigration.Settings

open Toml (Value Table Statement Entries Item)
open Toml.Statement Toml.Entries

/-! ### The table of settings -/

/-- A list of texts. -/
def texts (ss : List String) : Value := .list (ss.map .text)

/-- The sections with their values. -/
def sections (s : Settings) : List (String × Table) :=
  [("backup", [("mode", .text s.backup.mode.name), ("suffix", .text s.backup.suffix)]),
   ("files", [("extensions", texts s.files.extensions), ("exclude", texts s.files.exclude)]),
   ("typed_client",
     [("factory", .text s.typedClient.factory), ("wrapper", .text s.typedClient.wrapper),
      ("intermediate", .text s.typedClient.intermediate),
      ("wrapper_module", .text s.typedClient.wrapperModule),
      ("anchor_module", .text s.typedClient.anchorModule),
      ("accessor", .text s.typedClient.accessor)]),
   ("prefetch_link",
     [("outer", .text s.prefetchLink.outer), ("inner", .text s.prefetchLink.inner),
      ("attribute", .text s.prefetchLink.linkAttribute),
      ("outer_flag", .text s.prefetchLink.outerFlag),
      ("inner_module", .text s.prefetchLink.innerModule),
      ("anchor_module", .text s.prefetchLink.anchorModule)])]

/-- The values of a rule. -/
def ruleTable (rule : CustomRule) : Table :=
  [("id", .text rule.id), ("pattern", .text rule.pattern), ("replacement", .text rule.replacement),
   ("requires", texts rule.requires), ("forbids", texts rule.forbids)]

/-- The values of a custom migration other than its rules. -/
def ownValues (migration : CustomMigration) : Table :=
  (migration.description.map fun d => ("description", Value.text d)).toList ++
    [("exclude", texts migration.exclude)]

/-- The values of a custom migration. -/
def migrationTable (migration : CustomMigration) : Table :=
  ownValues migration ++
    [("rules", .list (migration.rules.map fun rule => .table (ruleTable rule)))]

/-- The table in which nothing is left out. -/
def table (s : Settings) : Table :=
  (s.sections.map fun (name, values) => (name, Value.table values)) ++
    [("migrations", .table (s.migrations.map fun (name, migration) =>
      (name, .table (migrationTable migration))))]

/-! ### Statements -/

theorem statements_eq (s : Settings) :
    s.statements = (s.sections.flatMap fun (name, values) => .opens [name] :: entries values) ++
      if s.migrations.isEmpty then [.opens ["migrations"]]
      else s.migrations.flatMap migrationStatements := rfl

theorem migrationStatements_eq (name : String) (migration : CustomMigration) :
    migrationStatements (name, migration) = .opens ["migrations", name] ::
      (entries (ownValues migration) ++
        if migration.rules.isEmpty then entries [("rules", .list [])]
        else migration.rules.flatMap fun rule =>
          .appends ["migrations", name, "rules"] :: entries (ruleTable rule)) := by
  obtain ⟨description, exclude, rules⟩ := migration
  cases description <;> rfl

/-- Sections that are new are put behind what is there. -/
theorem carryOut_sections (sections : List (String × Table)) (before : Entries)
    (hnew : ∀ name ∈ sections.map Prod.fst, get? name before = none)
    (hnodup : (sections.map Prod.fst).Nodup)
    (hvalues : ∀ values ∈ sections.map Prod.snd, (values.map Prod.fst).Nodup)
    (rest : List Statement) (current : List String) :
    ∃ current', carryOut ((sections.flatMap fun (name, values) =>
        .opens [name] :: entries values) ++ rest) current before =
      carryOut rest current' (before ++ sections.map fun (name, values) =>
        (name, .table .opened (ofValues values))) := by
  induction sections generalizing before current with
  | nil => exact ⟨current, by simp⟩
  | cons first sections ih =>
      obtain ⟨name, values⟩ := first
      obtain ⟨hname, hnew'⟩ := List.forall_mem_cons.1 hnew
      obtain ⟨hfresh, hnodup'⟩ := List.nodup_cons.1 hnodup
      obtain ⟨hown, hvalues'⟩ := List.forall_mem_cons.1 hvalues
      have hopen := carryOut_opens leads_nil hname (entries values ++
        ((sections.flatMap fun (name, values) => .opens [name] :: entries values) ++ rest)) current
      have hput := carryOut_entries (leads_nil.table hname .opened) values [] (fun _ _ => rfl) hown
        ((sections.flatMap fun (name, values) => .opens [name] :: entries values) ++ rest)
      have hnew'' : ∀ other ∈ sections.map Prod.fst,
          get? other (before ++ [(name, .table .opened (ofValues values))]) = none := by
        intro other hother
        refine get?_append_of_ne (hnew' other hother) ?_ _
        rintro rfl
        exact hfresh hother
      obtain ⟨current', hrest⟩ := ih _ hnew'' hnodup' hvalues' [name]
      refine ⟨current', ?_⟩
      rw [List.flatMap_cons, List.append_assoc, List.map_cons, ← List.singleton_append,
        ← List.append_assoc before]
      exact (hopen.trans hput).trans hrest

/-- The entries of a custom migration as they stand in the end. -/
def migrationEntries (migration : CustomMigration) : Entries :=
  ofValues (ownValues migration) ++
    if migration.rules.isEmpty then ofValues [("rules", .list [])]
    else listed "rules" (migration.rules.map fun rule => ofValues (ruleTable rule)).reverse

theorem carryOut_rules {name : String} {before done own : Entries}
    (hbefore : get? "migrations" before = none) (hname : get? name done = none)
    (hown : get? "rules" own = none) (rules : List CustomRule) (older : List Entries)
    (rest : List Statement) (current : List String) :
    ∃ current', carryOut ((rules.flatMap fun rule =>
        .appends ["migrations", name, "rules"] :: entries (ruleTable rule)) ++ rest) current
        (before ++ [("migrations", .table .implied
          (done ++ [(name, .table .opened (own ++ listed "rules" older))]))]) =
      carryOut rest current' (before ++ [("migrations", .table .implied (done ++
        [(name, .table .opened (own ++ listed "rules"
          ((rules.map fun rule => ofValues (ruleTable rule)).reverse ++ older)))]))]) := by
  have hleads : Leads ["migrations", name] _ :=
    ((leads_nil.table hname .opened).table hbefore .implied)
  induction rules generalizing older current with
  | nil => exact ⟨current, by simp⟩
  | cons rule rules ih =>
      have hrules : Leads ["migrations", name, "rules"] _ :=
        ((leads_nil.tables hown older).table hname .opened).table hbefore .implied
      have happend := carryOut_appends hleads hown older (entries (ruleTable rule) ++
        ((rules.flatMap fun rule =>
          .appends ["migrations", name, "rules"] :: entries (ruleTable rule)) ++ rest)) current
      have hput := carryOut_entries hrules (ruleTable rule) [] (fun _ _ => rfl)
        (by simp [ruleTable]) ((rules.flatMap fun rule =>
          .appends ["migrations", name, "rules"] :: entries (ruleTable rule)) ++ rest)
      obtain ⟨current', hrest⟩ := ih (ofValues (ruleTable rule) :: older)
        ["migrations", name, "rules"]
      refine ⟨current', ?_⟩
      rw [List.flatMap_cons, List.append_assoc, List.map_cons, List.reverse_cons,
        List.append_assoc, List.singleton_append]
      exact (happend.trans hput).trans hrest

theorem carryOut_migration {name : String} {before done : Entries}
    (hbefore : get? "migrations" before = none) (hname : get? name done = none)
    (migration : CustomMigration) (rest : List Statement) (current : List String) :
    ∃ current', carryOut (migrationStatements (name, migration) ++ rest) current
        (before ++ [("migrations", .table .implied done)]) =
      carryOut rest current' (before ++ [("migrations", .table .implied
        (done ++ [(name, .table .opened (migrationEntries migration))]))]) := by
  have hleads : Leads ["migrations", name] _ :=
    ((leads_nil.table hname .opened).table hbefore .implied)
  have hnodup : ((ownValues migration).map Prod.fst).Nodup := by
    cases h : migration.description <;> simp [ownValues, h]
  have hrules : get? "rules" (ofValues (ownValues migration)) = none := by
    refine get?_eq_none ?_
    cases h : migration.description <;> simp [ownValues, ofValues, h]
  have hown : ∀ more, carryOut (.opens ["migrations", name] ::
      (entries (ownValues migration) ++ more)) current
        (before ++ [("migrations", .table .implied done)]) =
      carryOut more ["migrations", name] (before ++ [("migrations", .table .implied
        (done ++ [(name, .table .opened (ofValues (ownValues migration)))]))]) := fun more =>
    (carryOut_opens (leads_nil.table hbefore .implied) hname _ current).trans
      (carryOut_entries hleads _ [] (fun _ _ => rfl) hnodup more)
  rw [migrationStatements_eq, migrationEntries, List.cons_append, List.append_assoc, hown]
  split
  · exact ⟨_, carryOut_entries hleads [("rules", .list [])] _
      (List.forall_mem_singleton.2 hrules) (by simp) rest⟩
  · obtain ⟨current', hlast⟩ := carryOut_rules hbefore hname hrules migration.rules [] rest
      ["migrations", name]
    rw [listed, List.append_nil, List.append_nil] at hlast
    exact ⟨current', hlast⟩

/-- Custom migrations with new names are put behind those that are there. -/
theorem carryOut_migrations {before : Entries} (hbefore : get? "migrations" before = none)
    (done : Entries) {migrations : List (String × CustomMigration)}
    (hnew : ∀ name ∈ migrations.map Prod.fst, get? name done = none)
    (hnodup : (migrations.map Prod.fst).Nodup) (current : List String) :
    carryOut (migrations.flatMap migrationStatements) current
        (before ++ [("migrations", .table .implied done)]) =
      some (before ++ [("migrations", .table .implied (done ++ migrations.map
        fun (name, migration) => (name, .table .opened (migrationEntries migration))))]) := by
  induction migrations generalizing done current with
  | nil => simp [carryOut]
  | cons first migrations ih =>
      obtain ⟨name, migration⟩ := first
      obtain ⟨hname, hnew'⟩ := List.forall_mem_cons.1 hnew
      obtain ⟨hfresh, hnodup'⟩ := List.nodup_cons.1 hnodup
      obtain ⟨current', hfirst⟩ := carryOut_migration hbefore hname migration
        (migrations.flatMap migrationStatements) current
      rw [List.flatMap_cons, hfirst, ih _ _ hnodup']
      · simp
      · intro other hother
        refine get?_append_of_ne (hnew' other hother) ?_ _
        rintro rfl
        exact hfresh hother

/-- The first of the migrations makes the table that they are all in. -/
theorem carryOut_first_migration {es : Entries} (hnew : get? "migrations" es = none)
    (name : String) (migration : CustomMigration) (rest : List Statement) (current : List String) :
    carryOut (migrationStatements (name, migration) ++ rest) current es =
      carryOut (migrationStatements (name, migration) ++ rest) current
        (es ++ [("migrations", .table .implied [])]) := by
  have hwithin := within_new hnew (openTable name) [] .opened
  have hpath : ["migrations", name] = ["migrations"] ++ [name] := rfl
  rw [migrationStatements_eq, List.cons_append, carryOut, carryOut, hpath, atHeader_append,
    atHeader_append, hwithin]

/-- All migrations are put into one table, which is there even if it has nothing in it. -/
theorem carryOut_allMigrations {es : Entries} (hnew : get? "migrations" es = none)
    {migrations : List (String × CustomMigration)} (hnodup : (migrations.map Prod.fst).Nodup)
    (current : List String) :
    ∃ origin, carryOut (if migrations.isEmpty then [.opens ["migrations"]]
        else migrations.flatMap migrationStatements) current es =
      some (es ++ [("migrations", .table origin (migrations.map
        fun (name, migration) => (name, .table .opened (migrationEntries migration))))]) := by
  cases migrations with
  | nil => exact ⟨.opened, carryOut_opens leads_nil hnew [] current⟩
  | cons first migrations =>
      refine ⟨.implied, ?_⟩
      have hall := carryOut_migrations hnew [] (fun _ _ => rfl) hnodup current
      rw [List.isEmpty_cons, if_neg Bool.false_ne_true, List.flatMap_cons,
        carryOut_first_migration hnew, ← List.flatMap_cons, hall, List.nil_append]

theorem toTable_migrationEntries (migration : CustomMigration) :
    Item.toTable (migrationEntries migration) = migrationTable migration := by
  rw [migrationEntries, migrationTable, Item.toTable_append, Item.toTable_ofValues]
  congr 1
  obtain ⟨description, exclude, rules⟩ := migration
  rcases List.eq_nil_or_concat rules with rfl | ⟨older, latest, rfl⟩
  · rfl
  · simp [listed, Item.toTable, Item.toValue, Item.toTables_eq, Item.toTable_ofValues]

theorem toTable_migrations (migrations : List (String × CustomMigration)) :
    Item.toTable (migrations.map fun (name, migration) =>
        (name, .table .opened (migrationEntries migration))) =
      migrations.map fun (name, migration) => (name, .table (migrationTable migration)) := by
  induction migrations with
  | nil => rfl
  | cons first migrations ih =>
      simp only [List.map_cons, Item.toTable, Item.toValue, toTable_migrationEntries, ih]

theorem toTable_sections (sections : List (String × Table)) :
    Item.toTable (sections.map fun (name, values) => (name, .table .opened (ofValues values))) =
      sections.map fun (name, values) => (name, .table values) := by
  induction sections with
  | nil => rfl
  | cons first sections ih =>
      simp only [List.map_cons, Item.toTable, Item.toValue, Item.toTable_ofValues, ih]

/-- The statements that spell out settings add up to the table of the settings. -/
theorem toTable?_statements {s : Settings} (hnodup : (s.migrations.map Prod.fst).Nodup) :
    Statement.toTable? s.statements = some s.table := by
  have hnew : get? "migrations" (s.sections.map fun (name, values) =>
      (name, Item.table .opened (ofValues values))) = none := get?_eq_none (by simp [sections])
  obtain ⟨current, hsections⟩ := carryOut_sections s.sections [] (fun _ _ => rfl)
    (by simp [sections]) (by simp [sections])
    (if s.migrations.isEmpty then [.opens ["migrations"]]
      else s.migrations.flatMap migrationStatements) []
  obtain ⟨origin, hmigrations⟩ := carryOut_allMigrations hnew hnodup current
  rw [Statement.toTable?, statements_eq, hsections, List.nil_append, hmigrations, Option.map_some,
    Item.toTable_append, toTable_sections, table]
  simp only [Item.toTable, Item.toValue, toTable_migrations]

/-! ### The settings of the table -/

theorem mapM_map_eq_some {α β : Type} (write : α → β) {read? : β → Option α}
    (h : ∀ a, read? (write a) = some a) (as : List α) : (as.map write).mapM read? = some as := by
  induction as with
  | nil => rfl
  | cons a as ih => simp [h, ih]

theorem list?_texts (ss : List String) : list? text? (texts ss) = some ss :=
  mapM_map_eq_some Value.text (fun _ => rfl) ss

theorem customRule?_ruleTable (rule : CustomRule) :
    customRule? (.table (ruleTable rule)) = some rule := by
  simp [customRule?, section?, ruleTable, required, optional, Table.get?, text?, list?_texts]

theorem customMigration?_migrationTable (migration : CustomMigration) :
    customMigration? (.table (migrationTable migration)) = some migration := by
  have hrules :
      list? customRule? (.list (migration.rules.map fun rule => .table (ruleTable rule))) =
        some migration.rules := mapM_map_eq_some _ customRule?_ruleTable migration.rules
  obtain ⟨description, exclude, rules⟩ := migration
  cases description with
  | none =>
      simp [customMigration?, section?, migrationTable, ownValues, optional, Table.get?,
        list?_texts, hrules]
  | some d =>
      simp [customMigration?, section?, migrationTable, ownValues, optional, Table.get?, text?,
        list?_texts, hrules]

/-! ### Names in order -/

/-- The custom migrations are in the order of their names, which are all different. -/
def Ordered (s : Settings) : Prop := (s.migrations.map Prod.fst).Pairwise (· < ·)

theorem Ordered.nodup {s : Settings} (h : s.Ordered) : (s.migrations.map Prod.fst).Nodup := by
  refine List.Pairwise.imp (fun hlt heq => ?_) h
  subst heq
  exact String.lt_irrefl _ hlt

theorem insertNamed_last {α : Type} {entries : List (String × α)} {name : String}
    (h : ∀ other ∈ entries.map Prod.fst, other < name) (value : α) :
    insertNamed name value entries = entries ++ [(name, value)] := by
  induction entries with
  | nil => rfl
  | cons entry entries ih =>
      obtain ⟨other, old⟩ := entry
      obtain ⟨hother, hentries⟩ := List.forall_mem_cons.1 h
      rw [insertNamed, if_neg, if_neg (String.lt_asymm hother), ih hentries]
      · rfl
      · rintro rfl
        exact String.lt_irrefl _ hother

/-- To put names into a list in their order is to put them at its end. -/
theorem foldl_insertNamed {α : Type} {entries : List (String × α)} (sorted : List (String × α))
    (h : ((sorted ++ entries).map Prod.fst).Pairwise (· < ·)) :
    entries.foldl (fun sorted (name, value) => insertNamed name value sorted) sorted =
      sorted ++ entries := by
  induction entries generalizing sorted with
  | nil => simp
  | cons entry entries ih =>
      obtain ⟨name, value⟩ := entry
      have hlast : ∀ other ∈ sorted.map Prod.fst, other < name := by
        rw [List.map_append, List.pairwise_append] at h
        exact fun other hother => h.2.2 other hother name List.mem_cons_self
      rw [List.foldl_cons]
      dsimp only
      rw [insertNamed_last hlast, ih _ (by simpa using h), List.append_assoc]
      rfl

theorem sortNamed_eq_self {α : Type} {entries : List (String × α)}
    (h : (entries.map Prod.fst).Pairwise (· < ·)) : sortNamed entries = entries :=
  foldl_insertNamed [] h

/-- No names come in but the one that is put in. -/
theorem mem_insertNamed {α : Type} {entries : List (String × α)} {name other : String} {value : α}
    (h : other ∈ (insertNamed name value entries).map Prod.fst) :
    other = name ∨ other ∈ entries.map Prod.fst := by
  induction entries with
  | nil => exact .inl (List.mem_singleton.1 h)
  | cons entry entries ih =>
      obtain ⟨first, old⟩ := entry
      rw [insertNamed] at h
      split at h
      · next heq => exact .inr (heq ▸ h)
      · split at h
        · exact List.mem_cons.1 h
        · rcases List.mem_cons.1 h with rfl | h
          · exact .inr List.mem_cons_self
          · exact (ih h).imp_right (List.mem_cons_of_mem _)

theorem pairwise_insertNamed {α : Type} {entries : List (String × α)} (name : String) (value : α)
    (h : (entries.map Prod.fst).Pairwise (· < ·)) :
    ((insertNamed name value entries).map Prod.fst).Pairwise (· < ·) := by
  induction entries with
  | nil => exact List.pairwise_singleton _ _
  | cons entry entries ih =>
      obtain ⟨first, old⟩ := entry
      obtain ⟨hfirst, hentries⟩ := List.pairwise_cons.1 h
      rw [insertNamed]
      split
      · next heq =>
        subst heq
        exact h
      · next hne =>
        split
        · next hlt =>
          refine List.pairwise_cons.2 ⟨fun other hother => ?_, h⟩
          rcases List.mem_cons.1 hother with rfl | hother
          · exact hlt
          · exact String.lt_trans hlt (hfirst other hother)
        · next hnlt =>
          refine List.pairwise_cons.2 ⟨fun other hother => ?_, ih hentries⟩
          rcases mem_insertNamed hother with rfl | hother
          · exact Decidable.byContradiction fun hge =>
              hne (String.le_antisymm (String.not_lt.1 hge) (String.not_lt.1 hnlt))
          · exact hfirst other hother

theorem pairwise_sortNamed {α : Type} (entries : List (String × α)) :
    ((sortNamed entries).map Prod.fst).Pairwise (· < ·) := by
  refine List.foldlRecOn
    (motive := fun sorted : List (String × α) => (sorted.map Prod.fst).Pairwise (· < ·)) entries _
    List.Pairwise.nil fun sorted hsorted entry _ => ?_
  exact pairwise_insertNamed entry.1 entry.2 hsorted

theorem migrations?_table {s : Settings} (h : s.Ordered) :
    migrations? (.table (s.migrations.map fun (name, migration) =>
      (name, .table (migrationTable migration)))) = some s.migrations := by
  have hentry : ∀ entry : String × CustomMigration,
      (customMigration? (.table (migrationTable entry.2))).map (entry.1, ·) = some entry := by
    intro entry
    rw [customMigration?_migrationTable]
    rfl
  have hread : (s.migrations.map fun (name, migration) =>
      (name, Value.table (migrationTable migration))).mapM
        (fun entry => (customMigration? entry.2).map (entry.1, ·)) = some s.migrations :=
    mapM_map_eq_some _ hentry s.migrations
  rw [migrations?, hread, Option.map_some, sortNamed_eq_self h]

/-- The table in which nothing is left out stands for the settings that it was made from. -/
theorem ofTable?_table {s : Settings} (h : s.Ordered) : ofTable? s.table = some s := by
  have hmigrations := migrations?_table h
  have hmode : mode? (.text s.backup.mode.name) = some s.backup.mode :=
    BackupMode.named?_name s.backup.mode
  simp [ofTable?, table, sections, optional, Table.get?, backup?, files?, typedClient?,
    prefetchLink?, section?, text?, list?_texts, hmode, hmigrations]

/-- Settings that are read from a table are in order. -/
theorem ordered_of_ofTable? {t : Table} {s : Settings} (h : ofTable? t = some s) : s.Ordered := by
  simp only [ofTable?, Option.bind_eq_bind, Option.bind_eq_some_iff, Option.pure_def,
    Option.some.injEq] at h
  obtain ⟨_, -, _, -, _, -, _, -, migrations, hmigrations, rfl⟩ := h
  rw [optional] at hmigrations
  split at hmigrations
  · cases hmigrations
    exact List.Pairwise.nil
  · next value _ =>
    cases value with
    | table entries =>
        obtain ⟨read, -, rfl⟩ := Option.map_eq_some_iff.1 hmigrations
        exact pairwise_sortNamed read
    | _ => cases hmigrations

end CodeMigration.Settings
