import CodeMigration.Proofs.SettingsTables
import Mathlib.Logic.Relation

/-!
# CodeMigration.Proofs.SettingsDocuments

Settings and the documents that stand for them. A document that spells out settings loads as
the same settings again, whatever texts they hold (`parse?_print`). A document that leaves
something out loads as if the default stood there: to put it in makes no difference, at
whichever place and in whichever form of its section (`Supplied.ofTable?_eq`).

A section is read value by value, and each value is read or has its default. So two tables
give the same section if they read the same in each value that could be left out
(`SameRead`), and that is shown once, for any value and any section.
-/

namespace CodeMigration.Settings

open Toml (Value Table Statement)

/-! ### Look-up in a table with one value more -/

theorem get?_append (u v : Table) (name : String) :
    (Table.get? (u ++ v) name) = (Table.get? u name).or (Table.get? v name) := by
  induction u with
  | nil => rfl
  | cons entry u ih =>
      obtain ⟨other, value⟩ := entry
      rw [List.cons_append, Table.get?, Table.get?]
      split
      · rfl
      · exact ih

theorem mem_of_get? {t : Table} {name : String} {value : Value} (h : t.get? name = some value) :
    (name, value) ∈ t := by
  induction t with
  | nil => cases h
  | cons entry t ih =>
      obtain ⟨other, old⟩ := entry
      rw [Table.get?] at h
      split at h
      · next heq =>
        cases heq
        cases h
        exact List.mem_cons_self
      · exact List.mem_cons_of_mem _ (ih h)

/-- Two tables read the same, value by value, as far as what is left out has the given
defaults. -/
def SameRead (defaults t t' : Table) : Prop :=
  ∀ ⦃α : Type⦄ (name : String) (read? : Value → Option α) (default : α),
    (∀ value, (name, value) ∈ defaults → read? value = some default) →
      optional t' name read? default = optional t name read? default

/-- A default that was left out makes no difference where it is put in. -/
theorem sameRead_insert {defaults es fs : Table} {key : String} {value : Value}
    (hvalue : (key, value) ∈ defaults) (hmissing : Table.get? (es ++ fs) key = none) :
    SameRead defaults (es ++ fs) (es ++ (key, value) :: fs) := by
  intro α name read? default hread
  rw [get?_append, Option.or_eq_none_iff] at hmissing
  rw [optional, optional, get?_append, get?_append, Table.get?]
  by_cases heq : name = key
  · subst heq
    rw [hmissing.1, hmissing.2, if_pos rfl]
    exact hread value hvalue
  · rw [if_neg heq]

/-- A table of defaults reads like an empty one. -/
theorem sameRead_nil {defaults values : Table} (h : ∀ entry ∈ values, entry ∈ defaults) :
    SameRead defaults [] values := by
  intro α name read? default hread
  rw [optional]
  split
  · rfl
  · next value hvalue => exact hread value (h _ (mem_of_get? hvalue))

/-! ### Sections -/

/-- A section reads the same if its values do. -/
theorem section_eq_of_sameRead {name : String} {defaults t t' : Table} {old new : Value}
    (hsection : (name, defaults) ∈ ({} : Settings).sections)
    (hold : section? (defaults.map Prod.fst) old = some t)
    (hnew : section? (defaults.map Prod.fst) new = some t') (h : SameRead defaults t t') :
    (name = "backup" → backup? new = backup? old) ∧ (name = "files" → files? new = files? old) ∧
      (name = "typed_client" → typedClient? new = typedClient? old) ∧
      (name = "prefetch_link" → prefetchLink? new = prefetchLink? old) := by
  simp only [sections, List.mem_cons, List.not_mem_nil, or_false, Prod.mk.injEq] at hsection
  rcases hsection with ⟨rfl, rfl⟩ | ⟨rfl, rfl⟩ | ⟨rfl, rfl⟩ | ⟨rfl, rfl⟩
  all_goals simp only [List.map_cons, List.map_nil] at hold hnew
  · refine ⟨fun _ => ?_, by simp, by simp, by simp⟩
    simp only [backup?, hold, hnew, Option.bind_eq_bind, Option.bind_some]
    rw [h "mode" mode? _ (by simp; rfl), h "suffix" text? _ (by simp; rfl)]
  · refine ⟨by simp, fun _ => ?_, by simp, by simp⟩
    simp only [files?, hold, hnew, Option.bind_eq_bind, Option.bind_some]
    rw [h "extensions" (list? text?) _ (by simp [list?_texts]),
      h "exclude" (list? text?) _ (by simp [list?_texts])]
  · refine ⟨by simp, by simp, fun _ => ?_, by simp⟩
    simp only [typedClient?, hold, hnew, Option.bind_eq_bind, Option.bind_some]
    rw [h "factory" text? _ (by simp; rfl), h "wrapper" text? _ (by simp; rfl),
      h "intermediate" text? _ (by simp; rfl), h "wrapper_module" text? _ (by simp; rfl),
      h "anchor_module" text? _ (by simp; rfl), h "accessor" text? _ (by simp; rfl)]
  · refine ⟨by simp, by simp, by simp, fun _ => ?_⟩
    simp only [prefetchLink?, hold, hnew, Option.bind_eq_bind, Option.bind_some]
    rw [h "outer" text? _ (by simp; rfl), h "inner" text? _ (by simp; rfl),
      h "attribute" text? _ (by simp; rfl), h "outer_flag" text? _ (by simp; rfl),
      h "inner_module" text? _ (by simp; rfl), h "anchor_module" text? _ (by simp; rfl)]

/-! ### Documents with defaults put in -/

/-- One default is put in where it was left out: the next value of a section, at any place in
a table or at the end of a list, or a section with some of its values. -/
inductive Supplied : Table → Table → Prop
  | value {u v e f defaults : Table} {name key : String} {value : Value}
      (hsection : (name, defaults) ∈ ({} : Settings).sections) (hvalue : (key, value) ∈ defaults)
      (hmissing : Table.get? (e ++ f) key = none) :
      Supplied (u ++ (name, .table (e ++ f)) :: v)
        (u ++ (name, .table (e ++ (key, value) :: f)) :: v)
  | item {u v front back : Table} {items : List Value} {name key : String} {value : Value}
      (hsection : (name, front ++ (key, value) :: back) ∈ ({} : Settings).sections)
      (hlength : items.length = front.length) :
      Supplied (u ++ (name, .list items) :: v) (u ++ (name, .list (items ++ [value])) :: v)
  | whole {u v defaults values : Table} {name : String}
      (hsection : (name, defaults) ∈ ({} : Settings).sections)
      (hvalues : ∀ entry ∈ values, entry ∈ defaults) (hmissing : Table.get? (u ++ v) name = none) :
      Supplied (u ++ v) (u ++ (name, .table values) :: v)

theorem optional_replace {α : Type} {u v : Table} {name other : String} {old new : Value}
    {read? : Value → Option α} (h : name = other → read? new = read? old) (default : α) :
    optional (u ++ (name, new) :: v) other read? default =
      optional (u ++ (name, old) :: v) other read? default := by
  rw [optional, optional, get?_append, get?_append, Table.get?, Table.get?]
  by_cases heq : other = name
  · rw [if_pos heq, if_pos heq]
    cases Table.get? u other with
    | none => exact h heq.symm
    | some value => rfl
  · rw [if_neg heq, if_neg heq]

theorem ofTable?_replace {u v t t' defaults : Table} {name : String} {old new : Value}
    (hsection : (name, defaults) ∈ ({} : Settings).sections)
    (hold : section? (defaults.map Prod.fst) old = some t)
    (hnew : section? (defaults.map Prod.fst) new = some t') (h : SameRead defaults t t') :
    ofTable? (u ++ (name, new) :: v) = ofTable? (u ++ (name, old) :: v) := by
  obtain ⟨hbackup, hfiles, htyped, hprefetch⟩ := section_eq_of_sameRead hsection hold hnew h
  have hmigrations : name = "migrations" → migrations? new = migrations? old := by
    rintro rfl
    simp [sections] at hsection
  simp only [ofTable?, optional_replace hbackup, optional_replace hfiles, optional_replace htyped,
    optional_replace hprefetch, optional_replace hmigrations]

/-- An empty section reads like one that is missing. -/
theorem ofTable?_insert_nil {u v defaults : Table} {name : String}
    (hsection : (name, defaults) ∈ ({} : Settings).sections)
    (hmissing : Table.get? (u ++ v) name = none) :
    ofTable? (u ++ (name, .table []) :: v) = ofTable? (u ++ v) := by
  have hname : (name, Value.table []) ∈
      ({} : Settings).sections.map fun s => (s.1, Value.table []) :=
    List.mem_map.2 ⟨_, hsection, rfl⟩
  have h := sameRead_insert hname hmissing
  simp only [ofTable?]
  rw [h "backup" backup? _ (by simp [sections]; rfl), h "files" files? _ (by simp [sections]; rfl),
    h "typed_client" typedClient? _ (by simp [sections]; rfl),
    h "prefetch_link" prefetchLink? _ (by simp [sections]; rfl),
    h "migrations" migrations? _ (by simp [sections])]

theorem nodup_of_mem_sections {name : String} {defaults : Table} {s : Settings}
    (h : (name, defaults) ∈ s.sections) : (defaults.map Prod.fst).Nodup := by
  simp only [sections, List.mem_cons, List.not_mem_nil, or_false, Prod.mk.injEq] at h
  rcases h with ⟨-, rfl⟩ | ⟨-, rfl⟩ | ⟨-, rfl⟩ | ⟨-, rfl⟩ <;> simp

theorem get?_eq_none {t : Table} {name : String} (h : name ∉ t.map Prod.fst) :
    t.get? name = none := by
  rw [Option.eq_none_iff_forall_ne_some]
  exact fun value hvalue => h (List.mem_map.2 ⟨_, mem_of_get? hvalue, rfl⟩)

/-- A default that is put in where it was left out makes no difference. -/
theorem Supplied.ofTable?_eq {t t' : Table} (h : Supplied t t') : ofTable? t' = ofTable? t := by
  cases h with
  | value hsection hvalue hmissing =>
      exact ofTable?_replace hsection rfl rfl (sameRead_insert hvalue hmissing)
  | @item u v front back items name key value hsection hlength =>
      have hnames : (front.map Prod.fst).length = items.length := by
        rw [List.length_map, hlength]
      have hold : section? ((front ++ (key, value) :: back).map Prod.fst) (.list items) =
          some ((front.map Prod.fst).zip items ++ []) := by
        rw [section?, List.map_append, ← List.append_nil items, List.zip_append hnames,
          List.zip_nil_right, List.append_nil items]
      have hnew : section? ((front ++ (key, value) :: back).map Prod.fst)
          (.list (items ++ [value])) =
            some ((front.map Prod.fst).zip items ++ [(key, value)]) := by
        rw [section?, List.map_append, List.map_cons, List.zip_append hnames]
        simp
      refine ofTable?_replace hsection hold hnew (sameRead_insert (by simp) (get?_eq_none ?_))
      have hnodup := nodup_of_mem_sections hsection
      rw [List.map_append, List.map_cons, List.nodup_append] at hnodup
      rw [List.append_nil, List.map_fst_zip (Nat.le_of_eq hnames)]
      exact fun hkey => hnodup.2.2 key hkey key List.mem_cons_self rfl
  | whole hsection hvalues hmissing =>
      rw [← ofTable?_insert_nil hsection hmissing]
      exact ofTable?_replace hsection rfl rfl (sameRead_nil hvalues)

theorem ofTable?_eq_of_supplied {t t' : Table} (h : Relation.ReflTransGen Supplied t t') :
    ofTable? t' = ofTable? t := by
  induction h with
  | refl => rfl
  | tail _ hstep ih => rw [hstep.ofTable?_eq, ih]

/-! ### Printed documents -/

theorem plain_entries {values : Table} (h : ∀ entry ∈ values, entry.2.Textual) :
    ∀ statement ∈ Statement.entries values, statement.Plain := by
  intro statement hstatement
  obtain ⟨entry, hentry, rfl⟩ := List.mem_map.1 hstatement
  exact ⟨⟨List.cons_ne_nil _ _, by simp [Toml.Reader.maxDepth]⟩, h entry hentry⟩

theorem plain_section (name : String) (values : Table) (h : ∀ entry ∈ values, entry.2.Textual) :
    ∀ statement ∈ .opens [name] :: Statement.entries values, statement.Plain :=
  List.forall_mem_cons.2 ⟨⟨List.cons_ne_nil _ _, by simp [Toml.Reader.maxDepth]⟩, plain_entries h⟩

theorem textual_ruleTable (rule : CustomRule) : ∀ entry ∈ ruleTable rule, entry.2.Textual := by
  simp only [ruleTable, List.forall_mem_cons, List.not_mem_nil, false_implies, implies_true,
    and_true]
  exact ⟨.text _, .text _, .text _, .texts _, .texts _⟩

theorem textual_ownValues (migration : CustomMigration) :
    ∀ entry ∈ ownValues migration, entry.2.Textual := by
  obtain ⟨description, exclude, rules⟩ := migration
  cases description with
  | none => exact List.forall_mem_singleton.2 (.texts exclude)
  | some d => exact List.forall_mem_cons.2 ⟨.text d, List.forall_mem_singleton.2 (.texts exclude)⟩

theorem textual_sections {s : Settings} {name : String} {values : Table}
    (h : (name, values) ∈ s.sections) : ∀ entry ∈ values, entry.2.Textual := by
  simp only [sections, List.mem_cons, List.not_mem_nil, or_false, Prod.mk.injEq] at h
  rcases h with ⟨-, rfl⟩ | ⟨-, rfl⟩ | ⟨-, rfl⟩ | ⟨-, rfl⟩
  all_goals
    simp only [List.forall_mem_cons, List.not_mem_nil, false_implies, implies_true, and_true]
    repeat' constructor

theorem plain_migrationStatements (name : String) (migration : CustomMigration) :
    ∀ statement ∈ migrationStatements (name, migration), statement.Plain := by
  rw [migrationStatements_eq]
  refine List.forall_mem_cons.2 ⟨⟨List.cons_ne_nil _ _, by simp [Toml.Reader.maxDepth]⟩,
    List.forall_mem_append.2 ⟨plain_entries (textual_ownValues migration), ?_⟩⟩
  split
  · exact plain_entries (List.forall_mem_singleton.2 (.texts []))
  · intro statement hstatement
    obtain ⟨rule, -, hrule⟩ := List.mem_flatMap.1 hstatement
    rcases List.mem_cons.1 hrule with rfl | hrule
    · exact ⟨List.cons_ne_nil _ _, by simp [Toml.Reader.maxDepth]⟩
    · exact plain_entries (textual_ruleTable rule) statement hrule

theorem plain_statements (s : Settings) : ∀ statement ∈ s.statements, statement.Plain := by
  rw [statements_eq]
  refine List.forall_mem_append.2 ⟨fun statement hstatement => ?_, ?_⟩
  · obtain ⟨⟨name, values⟩, hsection, hmem⟩ := List.mem_flatMap.1 hstatement
    exact plain_section name values (textual_sections hsection) statement hmem
  · split
    · exact plain_section "migrations" [] (by simp)
    · intro statement hstatement
      obtain ⟨⟨name, migration⟩, -, hmem⟩ := List.mem_flatMap.1 hstatement
      exact plain_migrationStatements name migration statement hmem

theorem parse?_print {s : Settings} (h : s.Ordered) : parse? s.print = some s := by
  rw [parse?, print, Toml.parse?_print s.plain_statements, toTable?_statements h.nodup,
    Option.bind_some, ofTable?_table h]

/-- Settings that come from a document are in order, so they can be spelled out in full. -/
theorem parse?_print_of_parse? {document : Text} {s : Settings} (h : parse? document = some s) :
    parse? s.print = some s := by
  obtain ⟨t, -, ht⟩ := Option.bind_eq_some_iff.1 h
  exact parse?_print (ordered_of_ofTable? ht)

/-- The document that spells out settings loads as the settings. And a document that loads, and
leaves something out, loads as the same settings once defaults are put in for any of what it
leaves out. -/
theorem documents_keep_settings :
    (∀ s : Settings, s.Ordered → parse? s.print = some s) ∧
    ∀ (document document' : Text) (t t' : Table) (s : Settings),
      Toml.parse? document = some t → parse? document = some s →
      Toml.parse? document' = some t' → Relation.ReflTransGen Supplied t t' →
      parse? document' = some s := by
  refine ⟨fun s hs => parse?_print hs, fun document document' t t' s ht hs ht' hsupplied => ?_⟩
  rw [parse?, ht, Option.bind_some] at hs
  rw [parse?, ht', Option.bind_some, ofTable?_eq_of_supplied hsupplied, hs]

/-- A custom migration whose name and texts need quotes and escapes, and a document without
the suffix and without the section for links. -/
theorem documents_keep_settings_quoted :
    let s : Settings := { migrations := [("a.b", { description := some "it's \"so\"\n\r", rules :=
      [{ id := "", pattern := "\\w+", replacement := "\t" }] })] }
    let document := "[backup]\nmode = \"none\"\n".toList
    let document' := ("[backup]\nsuffix = \".backup\"\nmode = \"none\"\n\n" ++
      "[prefetch_link]\ninner = \"PrefetchLink\"\n").toList
    let loaded : Settings := { backup := { mode := .none } }
    parse? s.print = some s ∧ parse? document = some loaded ∧ parse? document' = some loaded := by
  intro s document document' loaded
  have hdocument : parse? document = some loaded := by decide +kernel
  have ht : Toml.parse? document = some [("backup", .table [("mode", .text "none")])] := by
    have hprint : document =
        Toml.print (.opens ["backup"] :: Statement.entries [("mode", .text "none")]) := by
      decide +kernel
    rw [hprint, Toml.parse?_print (plain_section _ _ (List.forall_mem_singleton.2 (.text _)))]
    rfl
  have ht' : Toml.parse? document' =
      some [("backup", .table [("suffix", .text ".backup"), ("mode", .text "none")]),
        ("prefetch_link", .table [("inner", .text "PrefetchLink")])] := by
    have hprint : document' = Toml.print ((.opens ["backup"] ::
          Statement.entries [("suffix", .text ".backup"), ("mode", .text "none")]) ++
        .opens ["prefetch_link"] :: Statement.entries [("inner", .text "PrefetchLink")]) := by
      decide +kernel
    rw [hprint, Toml.parse?_print (List.forall_mem_append.2
      ⟨plain_section _ _ (List.forall_mem_cons.2 ⟨.text _, List.forall_mem_singleton.2 (.text _)⟩),
      plain_section _ _ (List.forall_mem_singleton.2 (.text _))⟩)]
    rfl
  refine ⟨documents_keep_settings.1 s (List.pairwise_singleton _ _), hdocument,
    documents_keep_settings.2 document document' _ _ loaded ht hdocument ht' ?_⟩
  refine .trans (.single (.value (u := []) (e := []) (.head _) (.tail _ (.head _)) rfl))
    (.single ?_)
  exact .whole (u := [_]) (v := []) (.tail _ (.tail _ (.tail _ (.head _))))
    (List.forall_mem_singleton.2 (.tail _ (.head _))) rfl

end CodeMigration.Settings
