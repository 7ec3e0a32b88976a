import CodeMigration.Toml.Document
import Mathlib.Tactic.Common

/-!
# CodeMigration.Proofs.OpenTables

What the statements of a document do to the table that was opened last. As long as every
name is new, a table grows at its end, and so do the tables above it: there is a place that
the path of the table leads to, and everything around that place stays as it is
(`Entries.Leads`). A header moves the place, and a named value is put there.
-/

namespace CodeMigration.Toml

namespace Entries

/-! ### Names that are new -/

theorem get?_append {name : String} {entries : Entries} (h : get? name entries = none)
    (more : Entries) : get? name (entries ++ more) = get? name more := by
  induction entries with
  | nil => rfl
  | cons entry entries ih =>
      obtain ⟨other, item⟩ := entry
      rw [get?] at h
      split at h
      · cases h
      · next hne => rw [List.cons_append, get?, if_neg hne, ih h]

theorem get?_last {name : String} {entries : Entries} (h : get? name entries = none) (item : Item) :
    get? name (entries ++ [(name, item)]) = some item := by
  rw [get?_append h, get?, if_pos rfl]

theorem get?_append_of_ne {name other : String} {entries : Entries}
    (h : get? other entries = none) (hne : other ≠ name) (item : Item) :
    get? other (entries ++ [(name, item)]) = none := by
  rw [get?_append h, get?, if_neg hne, get?]

theorem set_append {name : String} {entries : Entries} (h : get? name entries = none)
    (item : Item) (more : Entries) :
    set name item (entries ++ more) = entries ++ set name item more := by
  induction entries with
  | nil => rfl
  | cons entry entries ih =>
      obtain ⟨other, old⟩ := entry
      rw [get?] at h
      split at h
      · cases h
      · next hne => rw [List.cons_append, set, if_neg hne, ih h, List.cons_append]

theorem set_last {name : String} {entries : Entries} (h : get? name entries = none)
    (old item : Item) : set name item (entries ++ [(name, old)]) = entries ++ [(name, item)] := by
  rw [set_append h, set, if_pos rfl]

theorem set_new {name : String} {entries : Entries} (h : get? name entries = none) (item : Item) :
    set name item entries = entries ++ [(name, item)] := by
  simpa [set] using set_append h item []

theorem get?_eq_none {name : String} {entries : Entries} (h : name ∉ entries.map Prod.fst) :
    get? name entries = none := by
  induction entries with
  | nil => rfl
  | cons entry entries ih =>
      obtain ⟨other, item⟩ := entry
      rw [List.map_cons, List.mem_cons, not_or] at h
      rw [get?, if_neg h.1, ih h.2]

/-! ### The place that a path leads to -/

/-- The path leads to a place in a table: to change the table there is to change it with
everything around it. -/
def Leads (path : List String) (around : Entries → Entries) : Prop :=
  ∀ change origin sub, within false (fun _ => change) path origin (around sub) =
    (change sub).map around

theorem leads_nil : Leads [] id := by
  intro change origin sub
  rw [within, Option.map_id]
  rfl

theorem Leads.table {path : List String} {around : Entries → Entries} (h : Leads path around)
    {name : String} {before : Entries} (hname : get? name before = none) (origin : Origin) :
    Leads (name :: path) fun sub => before ++ [(name, .table origin (around sub))] := by
  intro change origin' sub
  rw [within, get?_last hname]
  dsimp only
  rw [Bool.false_and, if_neg Bool.false_ne_true, h, Option.map_map]
  congr 1
  funext sub
  exact set_last hname _ _

theorem Leads.tables {path : List String} {around : Entries → Entries} (h : Leads path around)
    {name : String} {before : Entries} (hname : get? name before = none) (older : List Entries) :
    Leads (name :: path) fun sub => before ++ [(name, .tables (around sub) older)] := by
  intro change origin' sub
  rw [within, get?_last hname]
  dsimp only
  rw [h, Option.map_map]
  congr 1
  funext sub
  exact set_last hname _ _

/-- Where a table on the way is missing it is made. -/
theorem within_new {name : String} {entries : Entries} (h : get? name entries = none)
    (change : Entries → Option Entries) (path : List String) (origin : Origin) :
    within false (fun _ => change) (name :: path) origin entries =
      within false (fun _ => change) (name :: path) origin
        (entries ++ [(name, .table .implied [])]) := by
  rw [within, within, h, get?_last h]
  dsimp only
  rw [Bool.false_and, if_neg Bool.false_ne_true, if_neg Bool.false_ne_true]
  congr 1
  funext sub
  rw [set_last h, set_new h]

end Entries

/-! ### Statements that go to the place -/

/-- The named values as they stand in a table that may still grow. -/
def Entries.ofValues (values : List (String × Value)) : Entries :=
  values.map fun (name, value) => (name, .value value)

/-- The statements that give named values. -/
def Statement.entries (values : List (String × Value)) : List Statement :=
  values.map fun (name, value) => .entry [name] value

namespace Statement

open Entries

variable {path : List String} {around : Entries → Entries}

theorem carryOut_entries (h : Leads path around) (values : List (String × Value)) (sub : Entries)
    (hnew : ∀ name ∈ values.map Prod.fst, get? name sub = none)
    (hnodup : (values.map Prod.fst).Nodup) (rest : List Statement) :
    carryOut (entries values ++ rest) path (around sub) =
      carryOut rest path (around (sub ++ ofValues values)) := by
  induction values generalizing sub with
  | nil => rw [ofValues, List.map_nil, List.append_nil]; rfl
  | cons entry values ih =>
      obtain ⟨name, value⟩ := entry
      obtain ⟨hname, hvalues⟩ := List.forall_mem_cons.1 hnew
      obtain ⟨hfresh, hnodup'⟩ := List.nodup_cons.1 hnodup
      have hstep : addDotted [name] value sub = some (sub ++ [(name, .value value)]) := by
        show add name value sub = _
        rw [add, hname, set_new hname]
        rfl
      show carryOut (.entry [name] value :: (entries values ++ rest)) path (around sub) = _
      rw [carryOut, h, hstep]
      show carryOut (entries values ++ rest) path (around (sub ++ [(name, .value value)])) = _
      rw [ih _ _ hnodup', List.append_assoc]
      · rfl
      · intro other hother
        refine get?_append_of_ne (hvalues other hother) ?_ _
        rintro rfl
        exact hfresh hother

theorem atHeader_append (change : String → Entries → Option Entries) (path : List String)
    (name : String) (es : Entries) :
    atHeader change (path ++ [name]) es = within false (fun _ => change name) path .opened es := by
  rw [atHeader, List.reverse_append]
  simp

theorem carryOut_opens (h : Leads path around) {name : String} {sub : Entries}
    (hnew : get? name sub = none) (rest : List Statement) (current : List String) :
    carryOut (.opens (path ++ [name]) :: rest) current (around sub) =
      carryOut rest (path ++ [name]) (around (sub ++ [(name, .table .opened [])])) := by
  have hstep : openTable name sub = some (sub ++ [(name, .table .opened [])]) := by
    rw [openTable, hnew]
    dsimp only
    rw [set_new hnew]
  rw [carryOut, atHeader_append, h, hstep]
  rfl

/-- The tables of a list, the latest first, as they stand in the table that holds them. -/
def listed (name : String) : List Entries → Entries
  | [] => []
  | latest :: older => [(name, .tables latest older)]

theorem carryOut_appends (h : Leads path around) {name : String} {before : Entries}
    (hnew : get? name before = none) (older : List Entries) (rest : List Statement)
    (current : List String) :
    carryOut (.appends (path ++ [name]) :: rest) current (around (before ++ listed name older)) =
      carryOut rest (path ++ [name]) (around (before ++ listed name ([] :: older))) := by
  have hstep : appendTable name (before ++ listed name older) =
      some (before ++ listed name ([] :: older)) := by
    rw [appendTable]
    cases older with
    | nil =>
        rw [listed, List.append_nil, hnew]
        dsimp only
        rw [set_new hnew]
        rfl
    | cons latest older =>
        rw [listed, get?_last hnew]
        dsimp only
        rw [set_last hnew]
        rfl
  rw [carryOut, atHeader_append, h, hstep]
  rfl

end Statement

/-! ### The table in the end -/

theorem Item.toTable_append (es fs : Entries) :
    Item.toTable (es ++ fs) = Item.toTable es ++ Item.toTable fs := by
  induction es with
  | nil => simp [Item.toTable]
  | cons e es ih => simp [Item.toTable, ih]

theorem Item.toTable_ofValues (values : List (String × Value)) :
    Item.toTable (Entries.ofValues values) = values := by
  induction values with
  | nil => simp [Item.toTable, Entries.ofValues]
  | cons entry values ih =>
      simp only [Entries.ofValues, List.map_cons, Item.toTable, Item.toValue] at ih ⊢
      rw [ih]

theorem Item.toTables_eq (older : List Entries) (behind : List Value) :
    Item.toTables older behind =
      (older.map fun es => Value.table (Item.toTable es)).reverse ++ behind := by
  induction older generalizing behind with
  | nil => simp [Item.toTables]
  | cons es older ih => simp [Item.toTables, ih]

end CodeMigration.Toml
