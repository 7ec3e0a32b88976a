import CodeMigration.Disk
import CodeMigration.Glob

/-!
# CodeMigration.Ignore

Files that tell which entries of a directory tree are to be left alone. Lines of a
deeper file win over those of a shallower one, and later lines over earlier ones.
Plain ignore files count everywhere; those of version control count only inside a
repository, and only up to its top.
-/

namespace CodeMigration

/-- What a line says about an entry that it matches. -/
inductive Verdict
  /-- The entry is left alone. -/
  | ignored
  /-- The entry is taken all the same. -/
  | kept
  deriving DecidableEq, Repr

/-- A line of an ignore file. -/
structure IgnoreRule where
  /-- The glob over paths below the directory of the file. -/
  glob : Glob
  /-- What the line says about entries that match. -/
  verdict : Verdict
  /-- Is the line about directories only? -/
  onlyDirectories : Bool

namespace IgnoreRule

/-! ### Reading -/

/-- Does the text begin with the word? -/
def begins (word : String) (text : Text) : Bool := word.toList.isPrefixOf text

/-- Does the text end with the word? -/
def ends (word : String) (text : Text) : Bool := word.toList.isSuffixOf text

/-- The glob of a line without its marks. Unless it is anchored to the directory of
the file or names a directory itself, it matches at any depth. What ends with two
stars matches what is inside, but not the directory itself. -/
def globText (anchored : Bool) (line : Text) : Text :=
  let floating := !anchored && !line.contains '/' && !begins "**/" line && line != ['*', '*']
  let glob := if floating then "**/".toList ++ line else line
  if ends "/**" glob then glob ++ "/*".toList else glob

/-- Takes the separator off the end of a line, together with a backslash before it. A
line that has one is about directories only. -/
def splitDirectoryMark (line : Text) : Bool × Text :=
  match line.reverse with
  | '/' :: '\\' :: rest => (true, rest.reverse)
  | '/' :: rest => (true, rest.reverse)
  | _ => (false, line)

/-- Takes the marks off the front of a line: what it says, whether it is anchored, and
the rest. A backslash takes the meaning from a mark. -/
def splitMarks (line : Text) : Verdict × Bool × Text :=
  match line with
  | '\\' :: '!' :: rest => (.ignored, false, '!' :: rest)
  | '\\' :: '#' :: rest => (.ignored, false, '#' :: rest)
  | '!' :: '/' :: rest => (.kept, true, rest)
  | '!' :: rest => (.kept, false, rest)
  | '/' :: rest => (.ignored, true, rest)
  | _ => (.ignored, false, line)

/-- Reads a line. Comments, blank lines and lines with a faulty glob say nothing. Space
at the end does not count unless it is escaped. -/
def ofLine? (line : Text) : Option IgnoreRule :=
  let line := if ends "\\ " line then line else line.trimEnd
  if line.isEmpty || begins "#" line then none
  else
    let (verdict, anchored, rest) := splitMarks line
    let (onlyDirectories, rest) := splitDirectoryMark rest
    (Glob.parse? true (String.ofList (globText anchored rest))).map fun glob =>
      ⟨glob, verdict, onlyDirectories⟩

/-- The lines of a text. -/
def linesOf (text : Text) : List Text :=
  let parts := text.splitAtChar '\n'
  parts.dropLast.map dropReturn ++ parts.getLast?.toList
where
  /-- The line without a carriage return at its end. -/
  dropReturn (line : Text) : Text :=
    if line.getLast? == some '\r' then line.dropLast else line

/-- Reads the text of an ignore file. A byte order mark in front does not count. -/
def ofText (text : Text) : List IgnoreRule :=
  (linesOf (text.dropWhile (· == '\uFEFF'))).filterMap ofLine?

/-- The part of a file that is text, up to the last line before one that is not. -/
def textPart : Content → Text
  | .text chars => chars
  | .binary bytes => (validLines bytes []).flatten
where
  /-- The text of some bytes. -/
  decode? (bytes : List UInt8) : Option Text :=
    (String.fromUTF8? (ByteArray.mk bytes.toArray)).map String.toList
  /-- The lines with their line feeds, up to one that is not text; `line` are the bytes
  of the current line, in reverse. -/
  validLines : List UInt8 → List UInt8 → List Text
    | [], line => (decode? line.reverse).toList
    | b :: rest, line =>
      if b == 10 then
        match decode? (b :: line).reverse with
        | some chars => chars :: validLines rest []
        | none => []
      else validLines rest (b :: line)

/-! ### Matching -/

/-- What the last line that matches says about an entry. -/
def verdict? (rules : List IgnoreRule) (path : String) (isDirectory : Bool) : Option Verdict :=
  (rules.reverse.find? fun rule =>
    (isDirectory || !rule.onlyDirectories) && rule.glob.isMatch path).map (·.verdict)

end IgnoreRule

/-- What a directory says about the entries below it. -/
structure IgnoreLevel where
  /-- The directory. -/
  directory : Place
  /-- The lines of its plain ignore file. -/
  plain : List IgnoreRule
  /-- The lines of its ignore file for version control. -/
  versioned : List IgnoreRule
  /-- The lines of the private ignore file of the repository. -/
  excluded : List IgnoreRule
  /-- Is the directory the top of a repository? -/
  isRepository : Bool

namespace IgnoreLevel

/-- The name of a plain ignore file. -/
def plainName : String := ".ignore"

/-- The name of an ignore file for version control. -/
def versionedName : String := ".gitignore"

/-- The entry that marks the top of a repository. -/
def repositoryName : String := ".git"

/-- The lines of the ignore file at a place. -/
def rulesAt (disk : Disk) (place : Place) : List IgnoreRule :=
  match disk.node? place with
  | some (.file content) => IgnoreRule.ofText (IgnoreRule.textPart content)
  | _ => []

/-- What a directory of a disk says. -/
def ofDirectory (disk : Disk) (directory : Place) : IgnoreLevel where
  directory := directory
  plain := rulesAt disk (directory ++ [plainName])
  versioned := rulesAt disk (directory ++ [versionedName])
  excluded := rulesAt disk (directory ++ [repositoryName, "info", "exclude"])
  isRepository := (disk.node? (directory ++ [repositoryName])).isSome

/-- All directories that say something, the deepest first. -/
def ofDisk (disk : Disk) : List IgnoreLevel :=
  let places := disk.nodes.filterMap fun (place, _) =>
    if [plainName, versionedName, repositoryName].contains (place.getLastD "") then
      some place.dropLast
    else none
  let deeper (a b : Place) : Bool := b.length ≤ a.length
  (places.eraseDups.mergeSort deeper).map (ofDirectory disk)

/-- The levels up to the top of the innermost repository; none outside a repository. -/
def repository (levels : List IgnoreLevel) : List IgnoreLevel :=
  if levels.any (·.isRepository) then upToTop levels else []
where
  /-- The levels up to the first top of a repository. -/
  upToTop : List IgnoreLevel → List IgnoreLevel
    | [] => []
    | level :: levels => if level.isRepository then [level] else level :: upToTop levels

/-- What the levels, the deepest first, say about an entry. -/
def verdict? (levels : List IgnoreLevel) (place : Place) (isDirectory : Bool) : Option Verdict :=
  let above := levels.filter fun level =>
    level.directory.isPrefixOf place && level.directory.length < place.length
  let ask (lines : IgnoreLevel → List IgnoreRule) (levels : List IgnoreLevel) : Option Verdict :=
    levels.findSome? fun level =>
      IgnoreRule.verdict? (lines level)
        (Path.ofNames (place.drop level.directory.length)).text isDirectory
  -- One kind of file is asked on all levels before the next kind is.
  ask (·.plain) above <|> ask (·.versioned) (repository above) <|>
    ask (·.excluded) (repository above)

end IgnoreLevel

/-! ### Walking a tree -/

namespace Disk

/-- Does a walk from a place get to the file some names below it? Ignored directories
are not entered. -/
def isReached (levels : List IgnoreLevel) (place : Place) (names : List String) : Bool :=
  (List.range names.length).all fun depth =>
    -- All of the names but the last are those of directories.
    IgnoreLevel.verdict? levels (place ++ names.take (depth + 1))
      (depth + 1 < names.length) != some .ignored

/-- The files below a directory that are not ignored, as paths from there on. Nothing
below a repository's own directory is looked at, even if the walk begins there. A user's own
ignore file for all repositories is taken to be empty, and the walk finds files whose paths
are too long for `Disk.locate`. -/
def scan (disk : Disk) (root : Path) : List Path :=
  match disk.locate root with
  | .error _ => []
  | .ok place =>
    if disk.node? place = some .directory ∧
        Component.name IgnoreLevel.repositoryName ∉ root.components then
      let levels := IgnoreLevel.ofDisk disk
      ((disk.filesBelow place).filter fun names =>
        !names.contains IgnoreLevel.repositoryName && isReached levels place names).map Path.ofNames
    else []

end Disk

end CodeMigration
