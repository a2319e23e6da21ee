import BoundaryRules.Bundled
import BoundaryRules.Tally
import BoundaryRules.Text.Escape

/-!
Segmenters: a ruleset with the settings for counting. The texts that they process come from memory,
from bytes in memory, from files and from streams.
-/
namespace BoundaryRules

inductive Source where
  | text (t : String)
  | bytes (content : List UInt8)
  | file (path : String)
  | stream (content : List UInt8)
deriving DecidableEq, Repr

namespace Source

/-- What a source looks like in diagnostics. -/
def summary : Source → String
  | text t => "Input::Text \x7b length: " ++ toString (Utf8.length t.toList) ++ " \x7d"
  | bytes content => "Input::Bytes \x7b length: " ++ toString content.length ++ " \x7d"
  | file path => "Input::File \x7b path: " ++ Quoted.quote path ++ " \x7d"
  | stream _ => "Input::Reader"

/-- The whole text of a source. -/
def read (source : Source) (files : FileTree) : Except Error (List Char) :=
  match source with
  | .text t => .ok t.toList
  | .bytes content => decode content
  | .stream content => decode content
  | .file path =>
    match files.read path with
    | .ok content => decode content
    | .error fault => .error (.unreadable path fault)
where
  decode (content : List UInt8) : Except Error (List Char) :=
    (Utf8.decode content).mapError .notUtf8

end Source

inductive GrammarSource where
  | bundled
  | file (path : String)
deriving DecidableEq, Repr

/-- The settings of a segmenter. -/
structure Settings where
  grammar : GrammarSource := .bundled
  /-- Whether words are counted in small letters. -/
  lowercase : Bool := false
  /-- Whether only words are counted, and not spaces and punctuation. -/
  wordsOnly : Bool := true
deriving DecidableEq, Repr

namespace Settings

/-- A grammar file has a path. -/
def check (settings : Settings) : Except Error Settings :=
  if settings.grammar = .file "" then .error .emptyGrammarPath else .ok settings

/-- The filter that words are counted with. -/
def filter (settings : Settings) : WordFilter :=
  if settings.wordsOnly then .words settings.lowercase
  else if settings.lowercase then .allLowercase
  else .all

end Settings

structure Segmenter where
  settings : Settings
  ruleset : Ruleset

namespace Segmenter

/-- The ruleset of a grammar source. -/
def loadGrammar (reader : Description.Reader) (files : FileTree) :
    GrammarSource → Except Error Ruleset
  | .bundled => .ok Bundled.ruleset
  | .file path => do
    let description ← Description.ofFile files path reader
    (description.loadFrom files).2

/-- Makes a segmenter with the grammar that its settings name. -/
def make (reader : Description.Reader) (files : FileTree) (settings : Settings) :
    Except Error Segmenter := do
  return ⟨settings, ← loadGrammar reader files settings.grammar⟩

def segments (segmenter : Segmenter) (text : List Char) : List Segment :=
  segmenter.ruleset.segments text

def words (segmenter : Segmenter) (text : List Char) : List String := segmenter.ruleset.words text

def counter (segmenter : Segmenter) : WordCounter := ⟨segmenter.ruleset, segmenter.settings.filter⟩

def tally (segmenter : Segmenter) (text : List Char) : Tally := segmenter.counter.tally text

/-- The segments of a source, with the size of its text. -/
structure Output where
  segments : List Segment
  byteCount : Nat
  charCount : Nat
deriving DecidableEq, Repr

def process (segmenter : Segmenter) (files : FileTree) (source : Source) :
    Except Error Output := do
  let text ← source.read files
  return ⟨segmenter.segments text, Utf8.length text, text.length⟩

end Segmenter
end BoundaryRules
