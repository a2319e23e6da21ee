import BoundaryRules.Files.Path
import BoundaryRules.Text.Utf8

/-!
File trees, with a working directory somewhere in the tree. Paths are followed step by step; the
directory above the root is the root. The system may refuse what is asked of a file or a directory.
-/
namespace BoundaryRules

inductive Node where
  | file (content : List UInt8)
  | directory (entries : List (String × Node))
deriving Repr

/-- Why a path could not be read or written. -/
inductive FileFault where
  | notFound
  | notDirectory
  | isDirectory
  | notText
  /-- Any other error of the system, such as a denied permission, a device that fails or is full. -/
  | system (code : Nat) (text : String)
deriving DecidableEq, Repr

def FileFault.message : FileFault → String
  | notFound => "No such file or directory (os error 2)"
  | notDirectory => "Not a directory (os error 20)"
  | isDirectory => "Is a directory (os error 21)"
  | notText => "stream did not contain valid UTF-8"
  | system code text => text ++ " (os error " ++ toString code ++ ")"

namespace Node

def empty : Node := .directory []

def isDirectory : Node → Bool
  | directory _ => true
  | file _ => false

/-- The entries of a directory, none for a file. -/
def entries : Node → List (String × Node)
  | directory entries => entries
  | file _ => []

def child? (node : Node) (name : String) : Option Node :=
  (node.entries.find? (·.1 = name)).map (·.2)

/-- Sets an entry of a directory. -/
def setChild (node : Node) (name : String) (child : Node) : Node :=
  .directory (set node.entries)
where
  set : List (String × Node) → List (String × Node)
    | [] => [(name, child)]
    | entry :: more => if entry.1 = name then (name, child) :: more else entry :: set more

/-- The node that a list of names leads to. -/
def reach (node : Node) : List String → Except FileFault Node
  | [] => .ok node
  | name :: names =>
    if !node.isDirectory then .error .notDirectory
    else match node.child? name with
      | some child => child.reach names
      | none => .error .notFound

/-- Places a node under a list of names, with the directories on the way. -/
def place (node child : Node) : List String → Node
  | [] => child
  | name :: names => node.setChild name (((node.child? name).getD empty).place child names)

end Node

/-- What is asked of a file or a directory. A directory is read to list it, written to make a file
in it, and entered on the way to what is in it. -/
inductive Access where
  | read
  | write
  | enter
deriving DecidableEq, Repr

/-- A place is the list of names that lead to it from the root. -/
structure FileTree where
  root : Node := .directory [("work", Node.empty)]
  /-- The place of the working directory. -/
  base : List String := ["work"]
  /-- Why an access to a place is refused, if it is. -/
  refusal? : Access → List String → Option FileFault := fun _ _ => none

namespace FileTree

/-- The working directory. -/
def here (tree : FileTree) : Node := (tree.root.reach tree.base).toOption.getD Node.empty

/-- Asks for access to a place. -/
def demand (tree : FileTree) (access : Access) (place : List String) : Except FileFault Unit :=
  match tree.refusal? access place with
  | none => .ok ()
  | some fault => .error fault

/-- The place that a piece of a path leads to. -/
def step (place : List String) (piece : String) : List String :=
  if piece = "" ∨ piece = "." then place
  else if piece = ".." then place.dropLast
  else place ++ [piece]

/-- The node that pieces of a path lead to from a place. There are directories all along the way,
and all of them can be entered. -/
def walk (tree : FileTree) (place : List String) : List String → Except FileFault Node
  | [] => tree.root.reach place
  | piece :: pieces => do
    if !(← tree.root.reach place).isDirectory then .error .notDirectory
    else
      tree.demand .enter place
      tree.walk (step place piece) pieces

/-- The place where a path starts. -/
def start (tree : FileTree) (path : String) : List String :=
  if Path.isAbsolute path then [] else tree.base

/-- The place that a path leads to. -/
def placeOf (tree : FileTree) (path : String) : List String :=
  (Path.split path).foldl step (tree.start path)

/-- The node at a path. -/
def node (tree : FileTree) (path : String) : Except FileFault Node :=
  if path = "" then .error .notFound
  else tree.walk (tree.start path) (Path.split path)

def isFile (tree : FileTree) (path : String) : Bool :=
  match tree.node path with
  | .ok (.file _) => true
  | _ => false

/-- The content of a file. -/
def read (tree : FileTree) (path : String) : Except FileFault (List UInt8) := do
  let node ← tree.node path
  tree.demand .read (tree.placeOf path)
  match node with
  | .file content => .ok content
  | .directory _ => .error .isDirectory

/-- The content of a text file. -/
def readText (tree : FileTree) (path : String) : Except FileFault (List Char) := do
  let content ← tree.read path
  (Utf8.decode content).mapError fun _ => .notText

/-- Places a node at a path, with the directories on the way. -/
def place (tree : FileTree) (path : String) (child : Node) : FileTree :=
  { tree with root := tree.root.place child (tree.placeOf path) }

/-- Puts a file at a path, with the directories on the way. -/
def put (tree : FileTree) (path : String) (content : List UInt8) : FileTree :=
  tree.place path (.file content)

def ofFiles (files : List (String × List UInt8)) : FileTree :=
  files.foldl (fun tree file => tree.put file.1 file.2) {}

/-- Writes a file, or makes it in a directory that exists. With a slash at its end a path cannot be
written to, be there such a file or not. -/
def write (tree : FileTree) (path : String) (content : List UInt8) :
    Except FileFault FileTree := do
  match tree.node path with
  | .ok (.directory _) => .error .isDirectory
  | .ok (.file _) =>
    tree.demand .write (tree.placeOf path)
    return tree.put path content
  | .error _ =>
    let pieces := (Path.split path).reverse
    let names := pieces.dropWhile (· = "")
    let above := (names.drop 1).reverse
    let directory ← tree.walk (tree.start path) above
    if names.isEmpty then .error .notFound
    else if !directory.isDirectory then .error .notDirectory
    else if names.length < pieces.length then .error .isDirectory
    else
      let place := above.foldl step (tree.start path)
      tree.demand .enter place
      tree.demand .write place
      return tree.put path content

end FileTree
end BoundaryRules
