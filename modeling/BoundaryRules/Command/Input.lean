import BoundaryRules.Files.Glob

/-!
Inputs of commands: standard input, named by a dash, and the files that glob patterns match.
-/
namespace BoundaryRules

inductive Input where
  | standard
  | file (path : String)
deriving DecidableEq, Repr

namespace Input

/-- The name in reports. -/
def name : Input → String
  | standard => "<stdin>"
  | file path => path

/-- Why patterns name no inputs. -/
inductive Fault where
  | noFiles (patterns : List String)
  | invalidPattern (pattern : String)
  /-- A directory on the way of a pattern cannot be listed. -/
  | unresolved (pattern path : String) (fault : FileFault)
deriving DecidableEq, Repr

namespace Fault

def ofGlob (pattern : String) : Glob.Fault → Fault
  | .invalid => invalidPattern pattern
  | .unlisted path fault => unresolved pattern path fault

def message : Fault → String
  | noFiles patterns => "No files found matching: " ++ ", ".intercalate patterns
  | invalidPattern pattern => "Invalid file pattern: " ++ pattern
  | unresolved pattern _ _ => "Error resolving pattern: " ++ pattern

/-- What a fault goes back to, where its message does not say so. -/
def cause? : Fault → Option String
  | unresolved _ path fault =>
    some ("attempting to read `" ++ path ++ "` resulted in an error: " ++ fault.message)
  | _ => none

end Fault

/-- The files among the paths that `glob` finds for a pattern. -/
def filesOf (glob : String → Except Glob.Fault (List String)) (files : FileTree)
    (pattern : String) : Except Fault (List String) := do
  let paths ← (glob pattern).mapError (.ofGlob pattern)
  return paths.filter files.isFile

/-- Drops paths with the same components as the one kept before them. -/
def dropRepeatsAfter (kept : String) : List String → List String
  | [] => []
  | path :: paths =>
    if Path.same kept path then dropRepeatsAfter kept paths
    else path :: dropRepeatsAfter path paths

def dropRepeats : List String → List String
  | [] => []
  | path :: paths => path :: dropRepeatsAfter path paths

/-- The inputs that patterns name if `glob` finds their paths: standard input first, then the files
in the order of their paths. -/
def resolveWith (glob : String → Except Glob.Fault (List String)) (files : FileTree)
    (patterns : List String) : Except Fault (List Input) := do
  let found := (← (patterns.filter (· ≠ "-")).mapM (filesOf glob files)).flatten
  let standard := patterns.contains "-"
  if found.isEmpty && !standard then .error (.noFiles patterns)
  else return (if standard then [Input.standard] else []) ++
    (dropRepeats (sortStable Path.le found)).map .file

end Input
end BoundaryRules
