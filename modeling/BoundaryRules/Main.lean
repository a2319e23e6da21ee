import BoundaryRules.Command.Arguments
import BoundaryRules.Command.Run

/-!
The program: it reads its arguments, the files and standard input, runs the command, and writes
what the command leaves.
-/
namespace BoundaryRules.Program

/-- What the system says when it fails. -/
def faultOf : IO.Error → FileFault
  | .permissionDenied _ code text => .system code.toNat text
  | .hardwareFault code text => .system code.toNat text
  | _ => .system 5 "Input/output error"

/-- A node that was read, and the places below it that could not be read. -/
structure ReadNode where
  name : String
  node : Node
  refused : List (List String × FileFault) := []

/-- The node of a directory entry with what is below it, down to a depth. -/
def readNode? : Nat → IO.FS.DirEntry → IO (Option ReadNode)
  | 0, _ => return none
  | depth + 1, entry => do
    match (← entry.path.metadata).type with
    | .file =>
      try
        return some ⟨entry.fileName, .file (← IO.FS.readBinFile entry.path).toList, []⟩
      catch error => return some ⟨entry.fileName, .file [], [([], faultOf error)]⟩
    | .dir =>
      try
        let children ← (← entry.path.readDir).toList.filterMapM (readNode? depth)
        let refused := children.flatMap fun child =>
          child.refused.map fun (place, fault) => (child.name :: place, fault)
        let entries := children.map fun child => (child.name, child.node)
        return some ⟨entry.fileName, .directory entries, refused⟩
      catch error => return some ⟨entry.fileName, Node.empty, [([], faultOf error)]⟩
    | _ => return none

/-- Puts a directory that was read into a file tree. -/
def addNode (files : FileTree) (path : String) (read : ReadNode) : FileTree :=
  let refused := read.refused.map fun (place, fault) => (files.placeOf path ++ place, fault)
  { files.place path read.node with
    refusal? := fun access place =>
      match refused.find? (·.1 = place) with
      | some (_, fault) => if access = .read then some fault else none
      | none => files.refusal? access place }

/-- The paths that a command names. -/
def pathsOf : Command → List String
  | .split command => command.inputs ++ command.grammar.toList ++ command.target.file.toList
  | .count command => command.inputs ++ command.grammar.toList ++ command.target.file.toList
  | .validate grammar => [grammar]
  | .listClasses grammar => grammar.toList
  | .listRules grammar => grammar.toList
  | .listFormats => []

/-- The directories of the absolute paths that a command names, and the working directory. -/
def readFiles (command : Command) : IO FileTree := do
  let directory := (← IO.currentDir).toString
  let mut files : FileTree := { root := Node.empty, base := (Path.split directory).filter (· ≠ "") }
  for path in pathsOf command do
    if Path.isAbsolute path then
      if let some directory := Path.parent? path then
        try
          if let some read ← readNode? 2 { root := directory, fileName := "." } then
            files := addNode files directory read
        catch _ => pure ()
  if let some read ← readNode? 32 { root := ".", fileName := "." } then
    files := addNode files "." read
  return files

def readStandard : IO (Except FileFault (List UInt8)) := do
  let stdin ← IO.getStdin
  let mut content := ByteArray.empty
  try
    repeat
      let chunk ← stdin.read 65536
      if chunk.isEmpty then break
      content := content ++ chunk
    return .ok content.toList
  catch error => return .error (faultOf error)

def readsStandard : Command → Bool
  | .split command => command.inputs.contains "-"
  | .count command => command.inputs.contains "-"
  | _ => false

/-- Runs a command and writes what it leaves. Fails with status 1, or 101 in a panic. -/
def runCommand (command : Command) : IO UInt32 := do
  let files ← readFiles command
  let standard ← if readsStandard command then readStandard else pure (.ok [])
  let outcome := command.run { standard, files }
  (← IO.getStdout).write (ByteArray.mk outcome.output.toArray)
  if let some path := command.outputFile? then
    if let .ok content := outcome.files.read path then
      IO.FS.writeBinFile path (ByteArray.mk content.toArray)
  match outcome.failure with
  | none => return 0
  | some .capacityOverflow =>
    IO.eprintln Failure.capacityOverflow.message
    return 101
  | some failure =>
    IO.eprintln ("Error: " ++ failure.message)
    if let some cause := failure.cause? then IO.eprintln ("\nCaused by:\n    " ++ cause)
    return 1

def usageText : String :=
  "Usage: COMMAND [OPTIONS]\n\n" ++
  "Commands:\n" ++
  "  split     Split input text into word boundary segments\n" ++
  "  count     Count the most frequent words across inputs\n" ++
  "  validate  Check that a grammar configuration loads\n" ++
  "  list      List grammar contents or output formats"

/-- Runs the command that the arguments spell; status 2 if they spell none. -/
def run (arguments : List String) : IO UInt32 := do
  match Arguments.read arguments with
  | .ok command => runCommand command
  | .error .help => IO.println usageText; return 0
  | .error .version => IO.println "0.1.0"; return 0
  | .error _ => IO.eprintln usageText; return 2

end BoundaryRules.Program

def main (arguments : List String) : IO UInt32 := BoundaryRules.Program.run arguments
