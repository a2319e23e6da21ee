import BoundaryRules.Command.Outcome
import BoundaryRules.Report.Layout

/-!
Execution of commands as a function of what they find.
-/
namespace BoundaryRules

def GrammarSource.ofPath : Option String → GrammarSource
  | none => .bundled
  | some path => .file path

/-- Makes the segmenter of a command. -/
def Settings.prepare (settings : Settings) (reader : Description.Reader) (files : FileTree) :
    Except Failure Segmenter := do
  let settings ← settings.check.mapError .library
  (Segmenter.make reader files settings).mapError .grammar

namespace SplitCommand

/-- Whether a segment is reported. -/
def reports (command : SplitCommand) (segment : Segment) : Bool :=
  !command.wordsOnly || ((WordFilter.words false).apply segment.text).isSome

/-- Sends a segment on its way. Standard output is sent each line as soon as it is complete. -/
def sendOne (command : SplitCommand) (buffer : Buffer) (segment : Segment) : Buffer :=
  let line := (buffer.add (Plain.segmentText segment.text)).add "\n"
  if command.target.file.isNone then line.flush else line

/-- Sends segments on their way. A report in JSON waits until it is complete. -/
def send (command : SplitCommand) (buffer : Buffer) (segments : List Segment) : Buffer :=
  match command.target.format with
  | .plain => segments.foldl command.sendOne buffer
  | .json => buffer

/-- The segments to report, each with the name of its input, up to the first input that cannot be
read, or to one whose segments there is no room for. The segments of an input are sent on their way
before the next one is read: this shows if an input is the output file. -/
def collect (command : SplitCommand) (segmenter : Segmenter)
    (read : Buffer → Input → Except Failure (List Char)) (refusal? : Nat → Option Failure)
    (buffer : Buffer) : List Input → List (String × Segment) × Option Failure
  | [] => ([], none)
  | input :: inputs =>
    match read buffer input with
    | .error failure => ([], some failure)
    | .ok text =>
      let segments := (segmenter.segments text).filter command.reports
      let sent := command.send buffer segments
      let (rest, failure) :=
        match refusal? sent.written.utf8ByteSize with
        | some failure => ([], some failure)
        | none => command.collect segmenter read refusal? sent inputs
      (segments.map (input.name, ·) ++ rest, failure)

/-- The report of segments. A plain one is written as it comes, one in JSON only when it is
complete. -/
def layOut (command : SplitCommand) (segments : List (String × Segment))
    (failure : Option Failure) : String :=
  match command.target.format with
  | .plain => Plain.segmentLines (segments.map (·.2.text))
  | .json => if failure.isNone then Json.ofSegments segments else ""

/-- What a split collects from inputs once the output file is made. -/
def collectInto (command : SplitCommand) (segmenter : Segmenter) (surroundings : Surroundings)
    (made : FileTree) (inputs : List Input) : List (String × Segment) × Option Failure :=
  command.collect segmenter (fun buffer => surroundings.read (command.target.stage made buffer))
    surroundings.refusal? {} inputs

/-- Finds the inputs, loads the grammar and makes the output file before it reads any input. -/
def run (command : SplitCommand) (libraries : Libraries) (surroundings : Surroundings) : Outcome :=
  let files := surroundings.files
  let prepared : Except Failure (List Input × Segmenter × FileTree) := do
    let inputs ← (Input.resolveWith (libraries.glob files) files command.inputs).mapError .inputs
    let segmenter ← Settings.prepare { grammar := .ofPath command.grammar } libraries.describe files
    return (inputs, segmenter, ← command.target.create files)
  match prepared with
  | .error failure => .fail files failure
  | .ok (inputs, segmenter, made) =>
    let (segments, failure) := command.collectInto segmenter surroundings made inputs
    command.target.deliver surroundings made (command.layOut segments failure) failure

end SplitCommand

namespace Workers

/-- A tally with its entries as the workers enumerate them. -/
def reorder (workers : Workers) (source? : Option Input) (tally : Tally) : Tally :=
  { tally with entries := workers.enumerate source? tally.entries }

/-- The tally of an input, as a worker makes it. -/
def tally (workers : Workers) (segmenter : Segmenter) (surroundings : Surroundings)
    (input : Input) : Except Failure Tally := do
  let text ← surroundings.read surroundings.files input
  return workers.reorder (some input) (segmenter.tally text)

/-- The tally of all inputs. -/
def merge (workers : Workers) (tallies : List Tally) : Tally :=
  workers.reorder none (tallies.foldl Tally.merge {})

end Workers

namespace CountCommand

def settings (command : CountCommand) : Settings where
  grammar := .ofPath command.grammar
  lowercase := command.lowercase
  wordsOnly := !command.allSegments

/-- How many workers are asked for. -/
def threadsOf (command : CountCommand) (workers : Workers) : UInt64 :=
  command.threads.getD workers.available

/-- The most frequent words of all inputs together, when these are known. -/
def countsOf (command : CountCommand) (reader : Description.Reader) (workers : Workers)
    (surroundings : Surroundings) (resolved : Except Input.Fault (List Input)) :
    Except Failure (List (String × Nat)) := do
  if command.top = 0 then throw .zeroTop
  if command.threads = some 0 then throw .zeroThreads
  let inputs ← resolved.mapError .inputs
  let segmenter ← command.settings.prepare reader surroundings.files
  let threads := command.threadsOf workers
  (workers.start threads).mapError .unstartable
  let tallies ← workers.collect threads (workers.tally segmenter surroundings) inputs
  ((workers.merge tallies).top command.top).mapError .ofHalt

/-- The most frequent words of the inputs that the command names. -/
def counts (command : CountCommand) (libraries : Libraries) (surroundings : Surroundings) :
    Except Failure (List (String × Nat)) :=
  command.countsOf libraries.describe libraries.workers surroundings
    (Input.resolveWith (libraries.glob surroundings.files) surroundings.files command.inputs)

def layOut (command : CountCommand) (counts : List (String × Nat)) : String :=
  match command.target.format with
  | .plain => Plain.countLines counts
  | .json => Json.ofCounts counts

/-- Makes the output file when all is counted. -/
def run (command : CountCommand) (libraries : Libraries) (surroundings : Surroundings) : Outcome :=
  let reported : Except Failure (List (String × Nat) × FileTree) := do
    let counts ← command.counts libraries surroundings
    return (counts, ← command.target.create surroundings.files)
  match reported with
  | .error failure => .fail surroundings.files failure
  | .ok (counts, made) => command.target.deliver surroundings made (command.layOut counts) none

end CountCommand

/-- Text on lines of its own. -/
def unlines (lines : List String) : String := String.join (lines.map (· ++ "\n"))

namespace Description

/-- The lines that tell about a grammar which loads. -/
def summaryLines (description : Description) (ruleset : Ruleset) : List String :=
  let classes := toString ruleset.classes.size
  let intervals := toString ruleset.classes.intervals.size
  let rules := toString ruleset.rules.length
  let buckets := toString ruleset.buckets.length
  ["  Name: " ++ description.name] ++
  (description.summary.map ("  Description: " ++ ·)).toList ++
  ["  Parse mode: " ++ description.mode.title,
    "  Macros: " ++ toString description.aliases.length,
    s!"  Classes: {classes} ({intervals} intervals)",
    s!"  Rules: {rules} in {buckets} buckets"]

/-- Reads the description in a file and loads its grammar. -/
def loadFile (reader : Reader) (files : FileTree) (path : String) :
    Except Error (Description × Ruleset) := do
  let description ← ofFile files path reader
  return (description, ← (description.loadFrom files).2)

end Description

namespace Command

/-- Tells whether a grammar loads. -/
def runValidate (reader : Description.Reader) (files : FileTree) (path : String) : Outcome :=
  let heading := "Validating grammar configuration: " ++ path
  match Description.loadFile reader files path with
  | .ok (description, ruleset) =>
    .succeed files (unlines (heading :: "✓ Grammar is valid!" :: description.summaryLines ruleset))
  | .error error =>
    let lines := [heading, "✗ Grammar is invalid!", "  Error: " ++ error.message]
    { Outcome.succeed files (unlines lines) with failure := some (.invalidGrammar error) }

/-- What a grammar is called in listings. -/
def grammarTitle : Option String → String
  | none => "Bundled: " ++ Bundled.name
  | some path => "External: " ++ path

def classLine (position : Nat) (cls : CharClass) : String :=
  "  " ++ Plain.padRight 20 cls.name ++ " " ++
    (if ClassId.isBuiltIn ⟨position⟩ then "(built-in)" else toString cls.ranges.length ++ " ranges")

def classLines (ruleset : Ruleset) : List String :=
  ruleset.classes.classes.zipIdx.map fun (cls, position) => classLine position cls

def ruleLines (ruleset : Ruleset) : List String :=
  ruleset.rules.map fun rule => "  " ++ rule.text

/-- Lists a part of a grammar under a heading. -/
def runList (reader : Description.Reader) (files : FileTree) (grammar : Option String)
    (heading : String) (lines : Ruleset → List String) : Outcome :=
  match Settings.prepare { grammar := .ofPath grammar } reader files with
  | .error failure => .fail files failure
  | .ok segmenter =>
    let title := grammarTitle grammar
    .succeed files (unlines (s!"{heading} ({title}):" :: lines segmenter.ruleset))

def formatLine (format : Format) : String :=
  "  " ++ Plain.padRight 6 format.name ++ " - " ++ format.summary

/-- Runs a command with libraries. Only the reports of segments and counts may lack room. -/
def runWith (libraries : Libraries) (command : Command) (surroundings : Surroundings) : Outcome :=
  let files := surroundings.files
  let reader := libraries.describe
  match command with
  | .split command => command.run libraries surroundings
  | .count command => command.run libraries surroundings
  | .validate grammar => runValidate reader files grammar
  | .listClasses grammar => runList reader files grammar "Character classes" classLines
  | .listRules grammar => runList reader files grammar "Rules" ruleLines
  | .listFormats =>
    .succeed files (unlines ("Available output formats:" :: Format.all.map formatLine))

/-- Runs a command. -/
def run (command : Command) (surroundings : Surroundings) : Outcome :=
  command.runWith .standard surroundings

end Command
end BoundaryRules
