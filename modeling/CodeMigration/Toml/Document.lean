import CodeMigration.Toml

/-!
# CodeMigration.Toml.Document

What the statements of a document add up to. A header opens a table or the next
element of a list of tables, and entries go into the table opened last. A name is
given once: a table may be opened after tables below it, but not twice, and dotted
names extend only tables that dotted names have made.
-/

namespace CodeMigration.Toml

/-- How a table came about. -/
inductive Origin
  /-- By its own header, or written in braces. -/
  | opened
  /-- By the header of a table below it. -/
  | implied
  /-- By a dotted name. -/
  | dotted
  deriving DecidableEq, Repr

/-- What a name stands for while a document is being put together. -/
inductive Item
  /-- A complete value. -/
  | value (v : Value)
  /-- A table that may still grow. -/
  | table (origin : Origin) (entries : List (String × Item))
  /-- Tables in a list, the latest first. The latest may still grow. -/
  | tables (latest : List (String × Item)) (older : List (List (String × Item)))

/-- A table that may still grow. -/
abbrev Entries := List (String × Item)

/-- A statement of a document. -/
inductive Statement
  /-- The header of a table. -/
  | opens (path : List String)
  /-- The header of an element of a list of tables. -/
  | appends (path : List String)
  /-- A value for a name, which may be dotted. -/
  | entry (path : List String) (value : Value)
  deriving Repr

namespace Entries

/-- What stands under a name. -/
def get? (name : String) : Entries → Option Item
  | [] => none
  | (other, item) :: rest => if name = other then some item else get? name rest

/-- Puts an item under a name, in place of what was there. -/
def set (name : String) (item : Item) : Entries → Entries
  | [] => [(name, item)]
  | (other, old) :: rest =>
    if name = other then (name, item) :: rest else (other, old) :: set name item rest

/-- Changes the table some names down. Tables on the way that are not there are made;
in a list of tables the way goes through the latest. A dotted name does not lead into
a table that was opened. -/
def within (dotted : Bool) (change : Origin → Entries → Option Entries) :
    List String → Origin → Entries → Option Entries
  | [], origin, entries => change origin entries
  | name :: path, _, entries =>
    match get? name entries with
    | none =>
      let origin := if dotted then Origin.dotted else .implied
      (within dotted change path origin []).map fun sub => set name (.table origin sub) entries
    | some (.value _) => none
    | some (.table origin sub) =>
      if dotted && origin == .opened then none
      else (within dotted change path origin sub).map fun sub =>
        set name (.table origin sub) entries
    | some (.tables latest older) =>
      (within dotted change path .opened latest).map fun latest =>
        set name (.tables latest older) entries

/-- Adds a value under a name that is not in use. -/
def add (name : String) (value : Value) (entries : Entries) : Option Entries :=
  if (get? name entries).isNone then some (set name (.value value) entries) else none

/-- Adds a value under a dotted name: into the table itself, or into one that dotted
names have made. -/
def addDotted (path : List String) (value : Value) (entries : Entries) : Option Entries :=
  match path.reverse with
  | [] => none
  | [name] => add name value entries
  | name :: front =>
    within true (fun origin entries =>
      if origin = .dotted then add name value entries else none) front.reverse .opened entries

/-- Opens a table under a name. It may be there already if nothing but tables below it
gave rise to it. -/
def openTable (name : String) (entries : Entries) : Option Entries :=
  match get? name entries with
  | none => some (set name (.table .opened []) entries)
  | some (.table .implied sub) => some (set name (.table .opened sub) entries)
  | some _ => none

/-- Opens the next element of the list of tables under a name. -/
def appendTable (name : String) (entries : Entries) : Option Entries :=
  match get? name entries with
  | none => some (set name (.tables [] []) entries)
  | some (.tables latest older) => some (set name (.tables [] (latest :: older)) entries)
  | some _ => none

/-- Changes the last table of a path by its name in the table above. -/
def atHeader (change : String → Entries → Option Entries) (path : List String)
    (entries : Entries) : Option Entries :=
  match path.reverse with
  | [] => none
  | name :: front => within false (fun _ => change name) front.reverse .opened entries

end Entries

mutual

/-- The value that an item has in the end. -/
def Item.toValue : Item → Value
  | .value v => v
  | .table _ entries => .table (Item.toTable entries)
  | .tables latest older => .list (Item.toTables older [.table (Item.toTable latest)])

/-- The table that entries make up in the end. -/
def Item.toTable : List (String × Item) → Table
  | [] => []
  | (name, item) :: rest => (name, item.toValue) :: Item.toTable rest

/-- The tables of a list, the latest first, before those that come behind them. -/
def Item.toTables : List (List (String × Item)) → List Value → List Value
  | [], behind => behind
  | entries :: older, behind => Item.toTables older (.table (Item.toTable entries) :: behind)

end

/-- Carries out statements one after the other; `current` is the path of the table
opened last. -/
def Statement.carryOut : List Statement → List String → Entries → Option Entries
  | [], _, entries => some entries
  | .opens path :: rest, _, entries =>
    (Entries.atHeader Entries.openTable path entries).bind (carryOut rest path)
  | .appends path :: rest, _, entries =>
    (Entries.atHeader Entries.appendTable path entries).bind (carryOut rest path)
  | .entry path value :: rest, current, entries =>
    (Entries.within false (fun _ => Entries.addDotted path value) current .opened entries).bind
      (carryOut rest current)

/-- The table that the statements of a document add up to. -/
def Statement.toTable? (statements : List Statement) : Option Table :=
  (Statement.carryOut statements [] []).map Item.toTable

/-- The table in braces that named values add up to. -/
def Table.ofPairs? (pairs : List (List String × Value)) : Option Table :=
  (pairs.foldlM (fun entries (path, value) => Entries.addDotted path value entries) []).map
    Item.toTable

end CodeMigration.Toml
