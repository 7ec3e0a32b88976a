import CodeMigration.Path
import CodeMigration.Pattern.Match

/-!
# CodeMigration.Glob

Globs over paths. A glob is read into tokens, and the tokens become a pattern over
the bytes of a path, so a question mark or a class stands for one byte. In strict
globs, stars and question marks do not reach across separators.
-/

namespace CodeMigration

/-- A token of a glob. -/
inductive GlobToken
  /-- A character. -/
  | char (c : Char)
  /-- Any single byte. -/
  | any
  /-- Any bytes. -/
  | star
  /-- Any directories in front. -/
  | treeStart
  /-- Anything below a directory. -/
  | treeEnd
  /-- Any directories in between. -/
  | treeMiddle
  /-- One byte of a class. -/
  | oneOf (negated : Bool) (ranges : List (Char × Char))
  /-- One of several branches. -/
  | branches (parts : List (List GlobToken))

namespace GlobToken

/-- The bytes of a character, each as a character of its own. -/
def bytesOf (c : Char) : Text := (String.utf8EncodeChar c).map fun b => Char.ofNat b.toNat

/-- The bytes of a text, each as a character of its own. -/
def bytes (s : String) : Text := s.toList.flatMap bytesOf

/-- The bytes of a class. A range between characters of several bytes goes from the
last byte of the one to the first byte of the other. -/
def byteSet (ranges : List (Char × Char)) : CharSet :=
  ranges.foldr (fun (first, last) set => .union (rangeSet (bytesOf first) (bytesOf last)) set)
    .empty
where
  /-- The bytes of one range. -/
  rangeSet (first last : Text) : CharSet :=
    if first == last then .ofList first
    else
      .union (.ofList (first.dropLast ++ last.drop 1))
        (match first.getLast?, last.head? with
          | some a, some b => .range a b
          | _, _ => .empty)

/-- What a star stands for. -/
def starSet (strict : Bool) : CharSet := if strict then .noneOf ['/'] else .full

/-- Any bytes at all. -/
def anything : Pattern := .many .full

mutual

/-- The pattern of a token; a choice without branches has none. -/
def pattern? (strict : Bool) : GlobToken → Option Pattern
  | char c => some (.word (bytesOf c))
  | any => some (.one (starSet strict))
  | star => some (.many (starSet strict))
  | treeStart =>
    some (.alt none (.optional (.literal "/")) (.seq anything (.literal "/")))
  | treeEnd => some (.seq (.literal "/") anything)
  | treeMiddle =>
    some (.alt none (.literal "/") (.seqs [.literal "/", anything, .literal "/"]))
  | oneOf negated ranges =>
    some (.one (if negated then .compl (byteSet ranges) else byteSet ranges))
  | branches parts =>
    match branchPatterns strict parts with
    | [] => none
    | ps => some (.alts ps)

/-- The patterns of the tokens that have one. -/
def tokenPatterns (strict : Bool) : List GlobToken → List Pattern
  | [] => []
  | token :: tokens => (token.pattern? strict).toList ++ tokenPatterns strict tokens

/-- The patterns of the branches that have one. -/
def branchPatterns (strict : Bool) : List (List GlobToken) → List Pattern
  | [] => []
  | part :: parts =>
    match tokenPatterns strict part with
    | [] => branchPatterns strict parts
    | ps => .seqs ps :: branchPatterns strict parts

end

end GlobToken

/-- A glob: the pattern that the bytes of a whole path have to match. -/
structure Glob where
  /-- The pattern over the bytes. -/
  pattern : Pattern

namespace Glob

open GlobToken

/-! ### Reading -/

/-- Why a class cannot be read. -/
inductive ClassFault
  /-- The class has no end. -/
  | unclosed
  /-- A range ends before it begins. -/
  | badRange

/-- Reads a class behind its bracket. A bracket or a hyphen in front stands for
itself, and so does a hyphen at the end. `ranges` are those read so far, in
reverse; `waiting` tells that a range waits for its end. -/
def classRest :
    Text → Bool → Bool → List (Char × Char) → Except ClassFault (List (Char × Char) × Text)
  | [], _, _, _ => .error .unclosed
  | c :: rest, first, waiting, ranges =>
    if c == ']' && !first then
      .ok ((if waiting then ('-', '-') :: ranges else ranges).reverse, rest)
    else if c == '-' && !first && !waiting then classRest rest false true ranges
    else if waiting then
      match ranges with
      | (a, _) :: before =>
        if c < a then .error .badRange else classRest rest false false ((a, c) :: before)
      | [] => .error .badRange
    else classRest rest false false ((c, c) :: ranges)

/-- Reads a class behind its bracket. In strict globs the bracket of a class without
end stands for itself. -/
def readClass (strict : Bool) (cs : Text) : Option (GlobToken × Text) :=
  let (negated, rest) := match cs with
    | '!' :: rest => (true, rest)
    | '^' :: rest => (true, rest)
    | _ => (false, cs)
  match classRest rest true false [] with
  | .ok (ranges, rest) => some (.oneOf negated ranges, rest)
  | .error .unclosed => if strict then some (.char '[', cs) else none
  | .error .badRange => none

/-- What two stars make of the tokens before them, given in reverse. They reach
over directories only between separators or ends; elsewhere they are two stars.
`inner` tells whether they stand inside a choice, where a comma or a brace that
stands for itself serves as a separator too. -/
def readTree (inner : Bool) (before : Option Char) (tokens : List GlobToken) (cs : Text) :
    List GlobToken × Text :=
  let plain := (star :: star :: tokens, cs)
  -- The last token is the separator before the stars, or a tree that has taken it in.
  let replaceLast (token : GlobToken) : List GlobToken :=
    match tokens with
    | treeStart :: older => treeStart :: older
    | treeEnd :: older => treeEnd :: older
    | _ :: older => token :: older
    | [] => [token]
  if tokens.isEmpty then
    match cs with
    | [] => ([treeStart], [])
    | '/' :: rest => ([treeStart], rest)
    | _ => plain
  else if before != some '/' &&
      !(inner && (before == some ',' || before == some '\x7b')) then plain
  else
    match cs with
    | [] => (replaceLast treeEnd, [])
    | '/' :: rest => (replaceLast treeMiddle, rest)
    | c :: _ => if inner && (c == ',' || c == '\x7d') then (replaceLast treeEnd, cs) else plain

variable (strict : Bool)

mutual

/-- Reads the tokens of a branch. `inner` tells whether the branch belongs to a
choice, which a comma or a brace ends; `before` is the character read last and
`tokens` are those read so far, in reverse. -/
def readTokens : Nat → Bool → Option Char → List GlobToken → Text →
    Option (List GlobToken × Text)
  | 0, _, _, _, _ => none
  | fuel + 1, inner, before, tokens, cs =>
    match cs with
    | [] => if inner then none else some (tokens.reverse, [])
    | '?' :: rest => readTokens fuel inner (some '?') (any :: tokens) rest
    | '*' :: '*' :: rest =>
      let (tokens, rest') := readTree inner before tokens rest
      -- The stars may have taken in the separator behind them.
      let last := if rest'.length < rest.length then '/' else '*'
      readTokens fuel inner (some last) tokens rest'
    | '*' :: rest => readTokens fuel inner (some '*') (star :: tokens) rest
    | '[' :: rest => do
      let (token, rest) ← readClass strict rest
      readTokens fuel inner (some ']') (token :: tokens) rest
    | '\x7b' :: rest => do
      let (parts, rest) ← readBranches fuel '\x7b' rest
      readTokens fuel inner (some '\x7d') (branches parts :: tokens) rest
    | '\x7d' :: rest => if inner then some (tokens.reverse, '\x7d' :: rest) else none
    | ',' :: rest =>
      if inner then some (tokens.reverse, ',' :: rest)
      else readTokens fuel inner (some ',') (char ',' :: tokens) rest
    | '\\' :: rest =>
      match rest with
      | [] => none
      | c :: rest => readTokens fuel inner (some c) (char c :: tokens) rest
    | c :: rest => readTokens fuel inner (some c) (char c :: tokens) rest

/-- Reads the branches of a choice up to its closing brace. -/
def readBranches : Nat → Char → Text → Option (List (List GlobToken) × Text)
  | 0, _, _ => none
  | fuel + 1, before, cs => do
    let (part, rest) ← readTokens fuel true (some before) [] cs
    match rest with
    | ',' :: rest =>
      let (parts, rest) ← readBranches fuel ',' rest
      return (part :: parts, rest)
    | _ :: rest => return ([part], rest)
    | [] => none

end

/-- The pattern of a whole glob; a glob of two stars alone matches everything. -/
def ofTokens (strict : Bool) (tokens : List GlobToken) : Glob :=
  match tokens with
  | [treeStart] => ⟨anything⟩
  | _ => ⟨.seqs (tokenPatterns strict tokens)⟩

/-- Reads a glob. -/
def parse? (strict : Bool) (written : String) : Option Glob :=
  let cs := written.toList
  (readTokens strict (2 * cs.length + 2) false none [] cs).map fun (tokens, _) => ofTokens strict tokens

/-- Does the glob match the whole path as it is written? -/
def isMatch (glob : Glob) (path : String) : Bool :=
  (glob.pattern.ends (Thread.enter (Cursor.start (bytes path)))).any fun t => t.place.after.isEmpty

end Glob

end CodeMigration
