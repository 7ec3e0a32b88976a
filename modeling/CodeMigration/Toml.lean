import CodeMigration.Text

/-!
# CodeMigration.Toml

Values of the settings format: texts, numbers, truth values, moments, lists and
tables. Numbers with a fraction and moments are kept as they are written, since
nothing is ever computed from them.
-/

namespace CodeMigration.Toml

/-- A value of the settings format. -/
inductive Value
  /-- A text. -/
  | text (s : String)
  /-- A truth value. -/
  | boolean (b : Bool)
  /-- A whole number. -/
  | integer (n : Int)
  /-- A number with a fraction or an exponent. -/
  | float (written : Text)
  /-- A date, a time of day, or both. -/
  | moment (written : Text)
  /-- A list. -/
  | list (items : List Value)
  /-- Named values, each name once. -/
  | table (entries : List (String × Value))
  deriving Repr

/-- A table: named values, each name once. -/
abbrev Table := List (String × Value)

/-- The value under a name. -/
def Table.get? (table : Table) (name : String) : Option Value :=
  match table with
  | [] => none
  | (other, value) :: rest => if name = other then some value else Table.get? rest name

end CodeMigration.Toml
