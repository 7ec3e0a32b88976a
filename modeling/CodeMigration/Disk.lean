import CodeMigration.Failure
import CodeMigration.Path
import CodeMigration.Text

/-!
# CodeMigration.Disk

A disk as a value: which node stands at which place. Paths lead to places step by
step, beginning at the working directory or, if they are absolute, at the root.
`Disk.read`, `Disk.write` and `Disk.remove` are all that a run does to a disk.
-/

namespace CodeMigration

/-- What a file holds. -/
inductive Content
  /-- Text. -/
  | text (chars : Text)
  /-- Bytes that are no text. -/
  | binary (bytes : List UInt8)
  deriving DecidableEq, Repr

/-- What stands at a place. -/
inductive Node
  /-- A file. -/
  | file (content : Content)
  /-- A directory. -/
  | directory
  deriving DecidableEq, Repr

/-- A place on a disk: the names on the way from the root. -/
abbrev Place := List String

/-- A disk. -/
structure Disk where
  /-- The nodes, each with its place. The first node given for a place counts. -/
  nodes : List (Place × Node) := []
  /-- The working directory. -/
  home : Place := []
  deriving DecidableEq, Repr

namespace Disk

/-! ### Places -/

/-- The list of nodes with one more for a place. -/
def putNode (place : Place) (node : Node) : List (Place × Node) → List (Place × Node)
  | [] => [(place, node)]
  | (other, old) :: rest =>
    if place = other then (place, node) :: rest else (other, old) :: putNode place node rest

/-- The list of nodes with none for a place. -/
def dropNode (place : Place) : List (Place × Node) → List (Place × Node)
  | [] => []
  | (other, old) :: rest =>
    if place = other then dropNode place rest else (other, old) :: dropNode place rest

/-- The node at a place. The root is always a directory. -/
def node? (disk : Disk) (place : Place) : Option Node :=
  if place = [] then some .directory else disk.nodes.lookup place

/-- The disk with a node at a place. -/
def put (disk : Disk) (place : Place) (node : Node) : Disk :=
  { disk with nodes := putNode place node disk.nodes }

/-- The disk with nothing at a place. -/
def erase (disk : Disk) (place : Place) : Disk :=
  { disk with nodes := dropNode place disk.nodes }

theorem lookup_cons_eq_ite (place other : Place) (node : Node) (rest : List (Place × Node)) :
    ((other, node) :: rest).lookup place =
      if place = other then some node else rest.lookup place := by
  rw [List.lookup_cons]
  split
  · next h => rw [if_pos (beq_iff_eq.1 h)]
  · next h => rw [if_neg (beq_eq_false_iff_ne.1 h)]

theorem lookup_putNode (place other : Place) (node : Node) (nodes : List (Place × Node)) :
    (putNode place node nodes).lookup other =
      if other = place then some node else nodes.lookup other := by
  induction nodes with
  | nil => simp [putNode, lookup_cons_eq_ite]
  | cons entry rest ih =>
    obtain ⟨name, old⟩ := entry
    by_cases hp : place = name
    · subst hp
      by_cases ho : other = place <;> simp [putNode, lookup_cons_eq_ite, ho]
    · by_cases ho : other = name
      · subst ho
        simp [putNode, hp, Ne.symm hp]
      · simp [putNode, lookup_cons_eq_ite, hp, ho, ih]

theorem lookup_dropNode (place other : Place) (nodes : List (Place × Node)) :
    (dropNode place nodes).lookup other =
      if other = place then none else nodes.lookup other := by
  induction nodes with
  | nil => simp [dropNode]
  | cons entry rest ih =>
    obtain ⟨name, old⟩ := entry
    by_cases hp : place = name
    · subst hp
      rw [dropNode, if_pos rfl, ih]
      by_cases ho : other = place <;> simp [lookup_cons_eq_ite, ho]
    · by_cases ho : other = name
      · subst ho
        simp [dropNode, hp, Ne.symm hp]
      · simp [dropNode, lookup_cons_eq_ite, hp, ho, ih]

/-- Putting a node changes what stands at its place and nothing else. -/
theorem node?_put (disk : Disk) (place other : Place) (node : Node) (h : place ≠ []) :
    (disk.put place node).node? other = if other = place then some node else disk.node? other := by
  by_cases ho : other = []
  · subst ho
    simp [node?, Ne.symm h]
  · simp [node?, put, ho, lookup_putNode]

/-- Erasing a place empties it and changes nothing else. -/
theorem node?_erase (disk : Disk) (place other : Place) (h : place ≠ []) :
    (disk.erase place).node? other = if other = place then none else disk.node? other := by
  by_cases ho : other = []
  · subst ho
    simp [node?, Ne.symm h]
  · simp [node?, erase, ho, lookup_dropNode]

@[simp] theorem home_put (disk : Disk) (place : Place) (node : Node) :
    (disk.put place node).home = disk.home := rfl

@[simp] theorem home_erase (disk : Disk) (place : Place) : (disk.erase place).home = disk.home := rfl

/-! ### From paths to places -/

/-- The number of bytes that a name may have. -/
def maxNameBytes : Nat := 255

/-- The number of bytes that a path may have. -/
def maxPathBytes : Nat := 4095

/-- The place one part of a path further. Only a directory can be left, and a dot or
an empty part stays where it is. -/
def step (disk : Disk) (here : Place) (part : String) : Except DiskError Place :=
  match disk.node? here with
  | none => .error .missing
  | some (.file _) => .error .notDirectory
  | some .directory =>
    if part = "" ∨ part = "." then .ok here
    else if part = ".." then .ok here.dropLast
    else if part.utf8ByteSize > maxNameBytes then .error .nameTooLong
    else .ok (here ++ [part])

/-- The place at the end of the parts of a path. -/
def walk (disk : Disk) : Place → List String → Except DiskError Place
  | here, [] => .ok here
  | here, part :: parts => do
    let next ← disk.step here part
    disk.walk next parts

/-- The parts of a path. -/
def parts (path : Path) : List String := (Path.pieces path.text.toList).map String.ofList

/-- The place where a path begins. -/
def start (disk : Disk) (path : Path) : Place := if path.isAbsolute then [] else disk.home

/-- The place that a path leads to. There may be nothing at the place, but it is in a
directory. The empty path leads nowhere. -/
def locate (disk : Disk) (path : Path) : Except DiskError Place :=
  if path.text = "" then .error .missing
  else if path.text.utf8ByteSize > maxPathBytes then .error .nameTooLong
  else disk.walk (disk.start path) (parts path)

/-- Is there anything at the end of the path? -/
def isPresent (disk : Disk) (path : Path) : Bool :=
  match disk.locate path with
  | .ok place => (disk.node? place).isSome
  | .error _ => false

/-! ### Files -/

/-- The text of a file. -/
def read (disk : Disk) (path : Path) : Except DiskError Text := do
  let place ← disk.locate path
  match disk.node? place with
  | none => .error .missing
  | some .directory => .error .isDirectory
  | some (.file (.binary _)) => .error .notText
  | some (.file (.text chars)) => .ok chars

/-- The place where a text is to be written. A separator behind the last name asks
for a directory, whatever stands there. -/
def locateFile (disk : Disk) (path : Path) : Except DiskError Place :=
  let reversed := (parts path).reverse
  match reversed.dropWhile (· == ""), reversed.head? with
  | last :: front, some "" => do
    let here ← disk.walk (disk.start path) front.reverse
    if last = "." ∨ last = ".." then disk.step here last
    else do
      -- A fault on the way to the last name is told before that of the separator.
      let _ ← disk.step here "."
      .error .isDirectory
  | _, _ => disk.locate path

/-- Writes a text to a file, which is created unless it is there. -/
def write (disk : Disk) (path : Path) (chars : Text) : Except DiskError Disk := do
  let place ← disk.locateFile path
  match disk.node? place with
  | some .directory => .error .isDirectory
  | _ => .ok (disk.put place (.file (.text chars)))

/-- Removes a file. -/
def remove (disk : Disk) (path : Path) : Except DiskError Disk := do
  let place ← disk.locate path
  match disk.node? place with
  | none => .error .missing
  | some .directory => .error .isDirectory
  | some (.file _) => .ok (disk.erase place)

/-! ### Several nodes -/

/-- The places of the files below a place, as the names from there on. -/
def filesBelow (disk : Disk) (place : Place) : List Place :=
  disk.nodes.filterMap fun (other, node) =>
    match node with
    | .file _ => if place.isPrefixOf other then some (other.drop place.length) else none
    | .directory => none

/-- The files among those at the paths that can be read, each with its text. -/
def readable (disk : Disk) (paths : List Path) : List (Path × Text) :=
  paths.filterMap fun path =>
    match disk.read path with
    | .ok text => some (path, text)
    | .error _ => none

/-- The places of a disk where something else stands than before, with what stands
there now. -/
def changesSince (disk before : Disk) : List (Place × Option Node) :=
  let changed := disk.nodes.filter fun (place, node) => before.node? place != some node
  let gone := before.nodes.filter fun (place, _) => (disk.node? place).isNone
  changed.map (fun (place, node) => (place, some node)) ++ gone.map fun (place, _) => (place, none)

end Disk

end CodeMigration
