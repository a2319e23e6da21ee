import BoundaryRules.Files.FileTree
import BoundaryRules.StableSort

/-!
Glob patterns. `?`, `*` and bracketed sets match within a name, and a name `**` stands for any
number of directories. A name without wildcards is looked up as it is.
-/
namespace BoundaryRules.Glob

/-- The characters from `first` to `last`. -/
structure Span where
  first : Char
  last : Char
deriving DecidableEq, Repr

inductive Wildcard where
  | char (c : Char)
  | anyChar
  | anySequence
  | oneOf (spans : List Span)
  | noneOf (spans : List Span)
  /-- A double star, which is a name on its own. -/
  | anyDirectories
deriving DecidableEq, Repr

/-- The spans that the text between brackets lists. -/
def spans : List Char → List Span
  | first :: '-' :: last :: text => ⟨first, last⟩ :: spans text
  | c :: text => ⟨c, c⟩ :: spans text
  | [] => []

def inSpans (spans : List Span) (c : Char) : Bool :=
  spans.any fun span => span.first ≤ c && c ≤ span.last

/-- A set after its opening bracket, and what follows it. Its first character is in the set even
if it is a closing bracket. -/
def readSet? (text : List Char) : Option (Wildcard × List Char) :=
  match text with
  | '!' :: c :: text =>
    if text.contains ']' then
      some (.noneOf (spans (c :: text.takeWhile (· != ']'))), (text.dropWhile (· != ']')).drop 1)
    else none
  | c :: text =>
    if c != '!' && text.contains ']' then
      some (.oneOf (spans (c :: text.takeWhile (· != ']'))), (text.dropWhile (· != ']')).drop 1)
    else none
  | [] => none

/-- Reads a pattern of at most `fuel` characters. `atStart` says whether a name starts here. -/
def readFrom (atStart : Bool) : Nat → List Char → Option (List Wildcard)
  | _, [] => some []
  | 0, _ => none
  | fuel + 1, c :: text =>
    if c = '?' then (readFrom false fuel text).map (.anyChar :: ·)
    else if c = '*' then
      match text with
      | '*' :: '*' :: _ => none
      | ['*'] => if atStart then some [.anyDirectories] else none
      | '*' :: '/' :: text =>
        if atStart then (readFrom true fuel text).map (.anyDirectories :: ·) else none
      | '*' :: _ => none
      | text => (readFrom false fuel text).map (.anySequence :: ·)
    else if c = '[' then do
      let (set, text) ← readSet? text
      (readFrom false fuel text).map (set :: ·)
    else (readFrom (c = '/') fuel text).map (.char c :: ·)

def read? (pattern : List Char) : Option (List Wildcard) := readFrom true pattern.length pattern

/-- Whether a wildcard that stands for one character stands for this one. -/
def Wildcard.admits (wildcard : Wildcard) (c : Char) : Bool :=
  match wildcard with
  | char d => c == d
  | anyChar => true
  | oneOf spans => inSpans spans c
  | noneOf spans => !inSpans spans c
  | anySequence => false
  | anyDirectories => false

/-- Whether `true` stands at a place or after it, for each place. -/
def orLater : List Bool → List Bool
  | [] => []
  | b :: bs =>
    let later := orLater bs
    (b || later.headD false) :: later

/-- Whether wildcards match the suffixes of a name, the name itself first and the empty suffix
last. -/
def matchSuffixes (name : List Char) : List Wildcard → List Bool
  | [] => name.map (fun _ => false) ++ [true]
  | .anySequence :: wildcards => orLater (matchSuffixes name wildcards)
  | .anyDirectories :: wildcards => orLater (matchSuffixes name wildcards)
  | wildcard :: wildcards =>
    List.zipWith (fun c later => wildcard.admits c && later) name
      (matchSuffixes name wildcards).tail ++ [false]

/-- Whether wildcards match a whole name. -/
def isMatch (wildcards : List Wildcard) (name : List Char) : Bool :=
  (matchSuffixes name wildcards).headD false

/-- A pattern for the names of one level. -/
inductive Level where
  | literal (name : String)
  | matching (wildcards : List Wildcard)
  | anyDepth
deriving DecidableEq, Repr

/-- The name that wildcards without any real wildcard spell. -/
def literal? (wildcards : List Wildcard) : Option String :=
  (wildcards.mapM fun
    | Wildcard.char c => some c
    | _ => none).map String.ofList

def Level.ofWildcards (wildcards : List Wildcard) : Level :=
  if wildcards.contains .anyDirectories then .anyDepth
  else match literal? wildcards with
    | some name => .literal name
    | none => .matching wildcards

def Level.admits (level : Level) (name : String) : Bool :=
  match level with
  | .literal text => text = name
  | .matching wildcards => isMatch wildcards name.toList
  | .anyDepth => true

/-- A pattern by levels, from the root or from the working directory. -/
structure Pattern where
  absolute : Bool
  directoriesOnly : Bool
  levels : List Level
deriving DecidableEq, Repr

/-- Double stars in a row are as good as one. -/
def mergeDepths : List Level → List Level
  | .anyDepth :: .anyDepth :: levels => mergeDepths (.anyDepth :: levels)
  | level :: levels => level :: mergeDepths levels
  | [] => []

/-- Compiles a pattern. It must be well formed as a whole and at each level. -/
def Pattern.compile? (pattern : String) : Option Pattern := do
  let _ ← read? pattern.toList
  let absolute := Path.isAbsolute pattern
  let body := if absolute then pattern.toList.drop 1 else pattern.toList
  let pieces := Path.splitFrom [] body
  let pieces := if pieces.getLast? = some "" then pieces.dropLast else pieces
  let levels ← pieces.mapM fun piece => (read? piece.toList).map Level.ofWildcards
  let levels := if body.isEmpty then [Level.literal ""] else levels
  return ⟨absolute, pattern.toList.getLast? = some '/', mergeDepths levels⟩

/-- Why a pattern finds no paths: it is none, or a directory on the way cannot be listed. -/
inductive Fault where
  | invalid
  | unlisted (path : String) (fault : FileFault)
deriving DecidableEq, Repr

/-- A path that was reached, with the last name on it. -/
structure Found where
  path : String
  name : String
  node : Node

/-- A path below a directory; below the working directory it is the name alone. -/
def below (path name : String) : String :=
  if Path.same path "." then name else Path.join path name

/-- Asks for the entries of a directory. -/
def list (tree : FileTree) (path : String) : Except Fault Unit :=
  (tree.demand .read (tree.placeOf path)).mapError (.unlisted path)

/-- The entries of a directory in the order of their names. -/
def entriesOf (tree : FileTree) (path : String) (node : Node) : Except Fault (List Found) := do
  list tree path
  return (sortStable (fun a b => a.1 ≤ b.1) node.entries).map fun (name, child) =>
    ⟨below path name, name, child⟩

mutual

/-- All nodes below a node, each directory before what is in it. -/
def descendants (tree : FileTree) (path : String) : Node → Except Fault (List Found)
  | .file _ => .ok []
  | .directory entries => do
    list tree path
    let sorted := sortStable (fun a b => a.1.name ≤ b.1.name) (branches tree path entries)
    let found ← sorted.mapM fun branch => branch.2.map (branch.1 :: ·)
    return found.flatten

/-- The entries of a directory, each with all nodes below it. -/
def branches (tree : FileTree) (path : String) :
    List (String × Node) → List (Found × Except Fault (List Found))
  | [] => []
  | (name, child) :: entries =>
    (⟨below path name, name, child⟩, descendants tree (below path name) child) ::
      branches tree path entries

end

/-- The node that a literal name leads to. -/
def lookUp? (tree : FileTree) (path : String) (node : Node) (name : String) : Option Found := do
  let next := below path name
  if name = "." ∨ name = ".." then
    if node.isDirectory then return ⟨next, name, (tree.node next).toOption.getD Node.empty⟩
    else none
  else
    let found ← (tree.node next).toOption
    return ⟨next, name, found⟩

/-- The entries `..` and `.` where a pattern with a dot in front matches them. -/
def dotEntries (tree : FileTree) (path : String) (wildcards : List Wildcard) : List Found :=
  if wildcards.head? = some (.char '.') then
    (["..", "."].filter fun name => isMatch wildcards name.toList).map fun name =>
      ⟨Path.join path name, name, (tree.node (Path.join path name)).toOption.getD Node.empty⟩
  else []

/-- The paths that match levels below a node. -/
def search (tree : FileTree) (directoriesOnly : Bool) :
    List Level → String → Node → Except Fault (List String)
  | [], path, node => .ok (if directoriesOnly && !node.isDirectory then [] else [path])
  | .literal name :: levels, path, node =>
    match lookUp? tree path node name with
    | some found => search tree directoriesOnly levels found.path found.node
    | none => .ok []
  | .matching wildcards :: levels, path, node =>
    if node.isDirectory then do
      let entries ← entriesOf tree path node
      let found := dotEntries tree path wildcards ++
        entries.filter fun found => isMatch wildcards found.name.toList
      let paths ← found.mapM fun found =>
        search tree directoriesOnly levels found.path found.node
      return paths.flatten
    else .ok []
  | [.anyDepth], path, node => do
    let found ← descendants tree path node
    return (found.filter (·.node.isDirectory)).map (·.path)
  | .anyDepth :: level :: levels, path, node => do
    let found ← descendants tree path node
    let paths ← (found.filter fun found => level.admits found.name).mapM fun found =>
      search tree directoriesOnly levels found.path found.node
    return paths.flatten

/-- The paths that a pattern matches. -/
def Pattern.paths (pattern : Pattern) (tree : FileTree) : Except Fault (List String) :=
  if pattern.absolute then search tree pattern.directoriesOnly pattern.levels "/" tree.root
  else search tree pattern.directoriesOnly pattern.levels "." tree.here

/-- The paths that a text matches as a pattern, if it is one. -/
def find (tree : FileTree) (pattern : String) : Except Fault (List String) :=
  match Pattern.compile? pattern with
  | none => .error .invalid
  | some pattern => pattern.paths tree

end BoundaryRules.Glob
