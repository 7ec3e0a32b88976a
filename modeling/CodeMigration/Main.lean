import CodeMigration.Command.Execute
import CodeMigration.CommandLine.Reader
import Std.Time.DateTime.Timestamp

/-!
# CodeMigration.Main

The program. It reads the part of the disk that a command can see, carries out the
command on it, and writes back what changed.
-/

namespace CodeMigration.Shell

/-! ### Reading the disk -/

/-- The written form of a place. -/
def pathOf (place : Place) : String := "/" ++ "/".intercalate place

/-- The place of a path, seen from a directory. -/
def placeOf (home : Place) (path : Path) : Place :=
  path.components.foldl (fun place component =>
    match component with
    | .root => []
    | .current => place
    | .parent => place.dropLast
    | .name s => place ++ [s]) home

/-- What a file holds. -/
def contentOf (bytes : ByteArray) : Content :=
  match String.fromUTF8? bytes with
  | some s => .text s.toList
  | none => .binary bytes.toList

/-- The nodes directly below a place whose names are wanted. What cannot be read is
left out. -/
def loadEntries (wanted : String → Bool) (place : Place) : IO (List (Place × Node)) := do
  let entries ← try (← IO.FS.realPath (pathOf place)).readDir catch _ => pure #[]
  let mut nodes := []
  for entry in entries do
    if wanted entry.fileName then
      let here := place ++ [entry.fileName]
      if ← entry.path.isDir then
        nodes := (here, Node.directory) :: nodes
      else
        try
          nodes := (here, .file (contentOf (← IO.FS.readBinFile entry.path))) :: nodes
        catch _ => pure ()
  return nodes

/-- The nodes below a place. Of a repository's own directory only the private ignore
file is looked at. -/
partial def loadTree (place : Place) : IO (List (Place × Node)) := do
  let entries ← loadEntries (fun _ => true) place
  let mut nodes := entries
  for (here, node) in entries do
    if node = .directory then
      let below ←
        if here.getLast? = some IgnoreLevel.repositoryName then
          loadEntries (· == "exclude") (here ++ ["info"])
        else loadTree here
      nodes := below ++ nodes
  return nodes

/-- The nodes on the way to a place, with ignore files and copies beside them. -/
def loadWay (place : Place) : IO (List (Place × Node)) := do
  let mut nodes := []
  for depth in List.range place.length do
    let next := place.getD depth ""
    let wanted (name : String) : Bool :=
      name.startsWith next ||
        [IgnoreLevel.plainName, IgnoreLevel.versionedName, IgnoreLevel.repositoryName].contains name
    nodes := nodes ++ (← loadEntries wanted (place.take depth))
  return nodes

/-- The paths that a command looks at by name. -/
def namedPaths (invocation : Invocation) : List Path :=
  let project := invocation.project
  [project, invocation.settingsPath] ++
    match invocation.command with
    | .run options => options.paths.map project.join ++ options.output.toList
    | .manual directory => [directory.join ⟨Manual.fileName⟩]
    | _ => []

/-- The part of the disk that a command can see. -/
def load (invocation : Invocation) : IO Disk := do
  let home := placeOf [] ⟨(← IO.currentDir).toString⟩
  let mut nodes ← loadTree (placeOf home invocation.project)
  for place in home :: (namedPaths invocation).map (placeOf home) do
    nodes := nodes ++ (← loadWay place)
  return { nodes := nodes, home := home }

/-! ### Writing it back -/

/-- Writes back what changed. -/
def store (before after : Disk) : IO Unit := do
  for (place, node) in after.changesSince before do
    match node with
    | some (.file (.text chars)) => IO.FS.writeFile (pathOf place) (String.ofList chars)
    | some (.file (.binary bytes)) =>
      IO.FS.writeBinFile (pathOf place) (ByteArray.mk bytes.toArray)
    | some .directory => pure ()
    | none => IO.FS.removeFile (pathOf place)

/-! ### Talking to the user -/

/-- Asks the user whether to go on. -/
def ask (question : String) : IO Consent := do
  let input ← IO.getStdin
  let side ← IO.getStderr
  if !(← input.isTty) || !(← side.isTty) then return .unavailable
  side.putStr (question ++ " [y/N] ")
  side.flush
  let answer ← input.getLine
  return if answer.toLower.startsWith "y" then .granted else .denied

/-- What a command has to know besides the command line and the disk. -/
def openSession (invocation : Invocation) (disk : Disk) : IO Session := do
  let output ← IO.getStdout
  let colours := (← output.isTty) && (← IO.getEnv "NO_COLOR").isNone
  let now := (← Std.Time.Timestamp.now).toNanosecondsSinceUnixEpoch.val
  let consent ← match invocation.question? disk with
    | some question => ask question
    | none => pure .granted
  return { colours := colours, consent := consent
           startedAt := ⟨now.fdiv 1000000000, (now.fmod 1000000000).toNat⟩ }

/-- Carries out a command and returns its exit code. -/
def carryOut (invocation : Invocation) : IO Nat := do
  let disk ← load invocation
  let session ← openSession invocation disk
  let began ← IO.monoNanosNow
  let reply ← match session.start invocation disk with
    | .done reply => pure reply
    | .ran plan disk report =>
      let nanos := (← IO.monoNanosNow) - began
      pure (session.finish ⟨nanos / 1000000000, nanos % 1000000000⟩ (.ran plan disk report))
  store disk reply.disk
  IO.print reply.stdout
  IO.eprint reply.stderr
  if let some failure := reply.failure then IO.eprintln ("Error: " ++ failure.message)
  return reply.code

/-- Tells what is wrong with a command line, or what it asks to be told. -/
def explain : UsageError → IO Unit
  | .helpWanted => IO.print Manual.help
  | .versionWanted text => IO.print text
  | .nothingGiven => IO.eprint Manual.help
  | fault => IO.eprintln ("error: " ++ fault.message)

end CodeMigration.Shell

/-- The program. -/
def main (words : List String) : IO UInt32 := do
  match CodeMigration.CommandLine.read (← IO.getEnv "CODEMOD_CONFIG") words with
  | .error fault =>
    CodeMigration.Shell.explain fault
    return fault.exitCode.toUInt32
  | .ok invocation => return (← CodeMigration.Shell.carryOut invocation).toUInt32
