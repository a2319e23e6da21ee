import BoundaryRules.Command.Basic
import BoundaryRules.Command.Input
import BoundaryRules.Report.Buffer
import BoundaryRules.Segmenter

/-!
Outcomes of commands: what they print, the files they leave, and why they fail if they do. Commands
rely on libraries that find paths, read TOML documents and start workers.
-/
namespace BoundaryRules

/-- How many bytes of a report are taken where it goes, and why no more are. -/
structure Room where
  bytes : Nat
  fault : FileFault
deriving DecidableEq, Repr

/-- What a command finds: the bytes on standard input, unless it cannot be read, the files, and the
room for a report, unless there is enough for any. -/
structure Surroundings where
  standard : Except FileFault (List UInt8) := .ok []
  files : FileTree := {}
  room? : Option Room := none

/-- Why a command fails. -/
inductive Failure where
  | inputs (fault : Input.Fault)
  | library (error : Error)
  | grammar (error : Error)
  | zeroTop
  | zeroThreads
  | unstartable (cause : String)
  | unreadable (path : String) (fault : FileFault)
  | unreadableStandard (fault : FileFault)
  | uncreatable (path : String) (fault : FileFault)
  | unwritable (fault : FileFault)
  | invalidGrammar (error : Error)
  /-- The command panics instead of failing in an orderly way. -/
  | capacityOverflow
deriving DecidableEq, Repr

namespace Failure

def ofHalt : Halt → Failure
  | .error error => library error
  | .capacityOverflow => capacityOverflow

def message : Failure → String
  | inputs fault => fault.message
  | library error => error.message
  | grammar error => "Grammar error: " ++ error.message
  | zeroTop => "Invalid option: --top must be at least 1"
  | zeroThreads => "Invalid option: --threads must be at least 1"
  | unstartable _ => "Failed to start worker threads"
  | unreadable path _ => "Failed to read file: " ++ path
  | unreadableStandard _ => "Failed to read from stdin"
  | uncreatable path _ => "Failed to create output file: " ++ path
  | unwritable fault => fault.message
  | invalidGrammar error => "Validation failed: " ++ error.message
  | capacityOverflow => "capacity overflow"

/-- What a failure goes back to, where its message does not say so. -/
def cause? : Failure → Option String
  | inputs fault => fault.cause?
  | unstartable cause => some cause
  | unreadable _ fault => some fault.message
  | unreadableStandard fault => some fault.message
  | uncreatable _ fault => some fault.message
  | _ => none

end Failure

/-- Workers that share the inputs of a count. The map of entries in a tally has an order of its own,
in which the entries are enumerated. -/
structure Workers where
  /-- The number of workers if none is asked for. -/
  available : UInt64
  /-- Starts so many workers, or tells why they cannot be started. -/
  start : UInt64 → Except String Unit
  /-- Lets so many workers do a task for each input, and collects what comes of it. -/
  collect : UInt64 → (Input → Except Failure Tally) → List Input → Except Failure (List Tally)
  /-- Enumerates the entries of an input's tally, or of the tally of all inputs. -/
  enumerate : Option Input → List TallyEntry → List TallyEntry

/-- One worker does all tasks in order. -/
def Workers.alone : Workers where
  available := 1
  start _ := .ok ()
  collect _ task inputs := inputs.mapM task
  enumerate _ entries := entries

/-- The libraries that commands rely on. -/
structure Libraries where
  /-- Finds the paths of a pattern. -/
  glob : FileTree → String → Except Glob.Fault (List String)
  /-- Reads the parts of a grammar's description. -/
  describe : Description.Reader
  workers : Workers

def Libraries.standard : Libraries where
  glob := Glob.find
  describe := Description.ofText
  workers := .alone

structure Outcome where
  output : List UInt8 := []
  files : FileTree
  failure : Option Failure := none

namespace Outcome

def succeed (files : FileTree) (output : String) : Outcome :=
  { output := output.toUTF8.toList, files }

/-- Fails before anything was written. -/
def fail (files : FileTree) (failure : Failure) : Outcome := { files, failure := some failure }

end Outcome

namespace Surroundings

/-- The text of an input. -/
def read (surroundings : Surroundings) (files : FileTree) : Input → Except Failure (List Char)
  | .standard => do
    let content ← surroundings.standard.mapError .unreadableStandard
    (Utf8.decode content).mapError fun _ => .unreadableStandard .notText
  | .file path => (files.readText path).mapError (.unreadable path)

/-- What is taken of the bytes of a report. -/
def taken (surroundings : Surroundings) (report : List UInt8) : List UInt8 :=
  match surroundings.room? with
  | none => report
  | some room => report.take room.bytes

/-- Why so many bytes of a report cannot be written, if they cannot. -/
def refusal? (surroundings : Surroundings) (bytes : Nat) : Option Failure :=
  match surroundings.room? with
  | none => none
  | some room => if bytes ≤ room.bytes then none else some (.unwritable room.fault)

end Surroundings

namespace Target

/-- Makes the output file, empty even if it was there before. -/
def create (target : Target) (files : FileTree) : Except Failure FileTree :=
  match target.file with
  | none => .ok files
  | some path => (files.write path []).mapError (.uncreatable path)

/-- The files while a report is on its way into the output file. -/
def stage (target : Target) (files : FileTree) (buffer : Buffer) : FileTree :=
  match target.file with
  | none => files
  | some path => files.put path buffer.written.toUTF8.toList

/-- Writes a report to where it goes, in the output file that was made for it, as far as there is
room for it. What failed before is what the command fails with. -/
def deliver (target : Target) (surroundings : Surroundings) (files : FileTree) (report : String)
    (failure : Option Failure) : Outcome :=
  let bytes := report.toUTF8.toList
  let failure := failure.or (surroundings.refusal? bytes.length)
  match target.file with
  | none => { output := surroundings.taken bytes, files, failure }
  | some path => { files := files.put path (surroundings.taken bytes), failure }

end Target
end BoundaryRules
