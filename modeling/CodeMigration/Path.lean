/-!
# CodeMigration.Path

Paths as they are written. A path is read as a list of components; repeated
separators and dots inside it do not count. Two paths are ordered and compared by
their components, but shown as they were written.
-/

namespace CodeMigration

/-- A component of a path. -/
inductive Component
  /-- The separator that begins an absolute path. -/
  | root
  /-- The directory itself; only the first component can be this. -/
  | current
  /-- The directory above. -/
  | parent
  /-- A name. -/
  | name (s : String)
  deriving DecidableEq, Repr

namespace Component

/-- The place of a kind of component in the order of components. -/
def rank : Component → Nat
  | root => 0
  | current => 1
  | parent => 2
  | name _ => 3

/-- Names are ordered by their characters and come last. -/
def compare : Component → Component → Ordering
  | name a, name b => Ord.compare a b
  | a, b => Ord.compare a.rank b.rank

/-- The text of a name. -/
def name? : Component → Option String
  | name s => some s
  | _ => none

end Component

/-- A path as it is written. -/
structure Path where
  /-- The written form. -/
  text : String
  deriving DecidableEq, Repr

namespace Path

instance : Coe String Path := ⟨Path.mk⟩

/-- The parts between separators. -/
def pieces (chars : List Char) : List (List Char) :=
  match chars with
  | [] => [[]]
  | c :: rest =>
    if c == '/' then [] :: pieces rest
    else
      match pieces rest with
      | [] => [[c]]
      | piece :: more => (c :: piece) :: more

/-- The component that a part stands for; empty parts and dots stand for none. -/
def component? (piece : List Char) : Option Component :=
  match piece with
  | [] => none
  | ['.'] => none
  | ['.', '.'] => some .parent
  | piece => some (.name (String.ofList piece))

/-- Does the path begin at the root? -/
def isAbsolute (p : Path) : Bool := p.text.toList.head? == some '/'

/-- The components of the path. -/
def components (p : Path) : List Component :=
  let parts := pieces p.text.toList
  let first : List Component :=
    if p.isAbsolute then [.root] else if parts.head? == some ['.'] then [.current] else []
  first ++ parts.filterMap component?

/-- The path below this one; an absolute path replaces it. -/
def join (p q : Path) : Path :=
  if q.isAbsolute then q
  else if p.text.isEmpty || p.text.toList.getLast? == some '/' then ⟨p.text ++ q.text⟩
  else ⟨p.text ++ "/" ++ q.text⟩

/-- The path with the given text behind it. -/
def withSuffix (p : Path) (suffix : String) : Path := ⟨p.text ++ suffix⟩

/-- The path made of names below one another. -/
def ofNames (names : List String) : Path := ⟨"/".intercalate names⟩

/-- Splits a name at its last dot. A dot that begins the name does not count. -/
def splitExtension (name : String) : String × Option String :=
  let reversed := name.toList.reverse
  let extension := (reversed.takeWhile (· != '.')).reverse
  match reversed.dropWhile (· != '.') with
  | '.' :: c :: stem => (String.ofList (c :: stem).reverse, some (String.ofList extension))
  | _ => (name, none)

/-- The extension of the last component, if that is a name with an extension. -/
def extension? (p : Path) : Option String :=
  match p.components.getLast? with
  | some (.name s) => (splitExtension s).2
  | _ => none

/-- The components behind those of another path, if the path begins with them. -/
def relativeTo? (p base : Path) : Option (List Component) :=
  if base.components.isPrefixOf p.components then
    some (p.components.drop base.components.length)
  else none

/-- The order of paths, component by component. -/
def compareComponents : List Component → List Component → Ordering
  | [], [] => .eq
  | [], _ :: _ => .lt
  | _ :: _, [] => .gt
  | a :: as, b :: bs => (a.compare b).then (compareComponents as bs)

/-- Does the path come before the other one or at the same place? -/
def le (p q : Path) : Bool := (compareComponents p.components q.components).isLE

/-- Do the paths have the same components? -/
def same (p q : Path) : Bool := p.components == q.components

end Path

end CodeMigration
