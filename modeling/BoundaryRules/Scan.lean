import BoundaryRules.Selection
import BoundaryRules.Text.Utf8

/-!
Scans: the segmentation of a text from left to right, one segment at a time. A scan passes the
boundaries of the text in order and keeps the class that its rules see on the left.
-/
namespace BoundaryRules

/-- A piece of a text and its offset in bytes. -/
structure Segment where
  offset : Nat
  text : String
deriving DecidableEq, Repr

/-- The state of a scan between two boundaries. `behind` is all text passed and `pending` the part
of it since the last cut, both with the nearest character first; `cursor` and `wordStart` are the
offsets of the end and of the start of `pending`. -/
structure Place where
  behind : List Char := []
  pending : List Char := []
  cursor : Nat := 0
  wordStart : Nat := 0
  state : ClassId := .start
deriving DecidableEq, Repr

namespace Place

/-- The place after the next character, with the word going on in the given state. -/
def pass (place : Place) (c : Char) (state : ClassId) : Place where
  behind := c :: place.behind
  pending := c :: place.pending
  cursor := place.cursor + c.utf8Size
  wordStart := place.wordStart
  state := state

/-- The place with a new word started at the cursor. -/
def restart (place : Place) : Place := { place with pending := [], wordStart := place.cursor }

/-- The segment that ends at the cursor, unless it is empty. -/
def segment? (place : Place) : Option Segment :=
  if place.pending.isEmpty then none
  else some ⟨place.wordStart, String.ofList place.pending.reverse⟩

/-- The state to go on in after a class was entered: the wildcard changes nothing. -/
def enter (place : Place) (cls : ClassId) : ClassId := if cls = .any then place.state else cls

/-- Passes one character by the rule selected for the boundary before it; without a rule a word
ends there. Gives the segment that ends, if one does. -/
def step (ruleset : Ruleset) (place : Place) (c : Char) (ahead : List Char) :
    Option Segment × Place :=
  let selected := ruleset.select place.behind (c :: ahead) place.state
  let next := ruleset.classes.classOf c
  match selected.elim Action.cut CompiledRule.action with
  | .cut => (place.segment?, place.restart.pass c next)
  | .join => (none, place.pass c (place.enter next))
  | .absorb => (none, place.pass c (place.enter (selected.elim next CompiledRule.target)))

/-- The end of the text always ends a word. -/
def finish (place : Place) : Option Segment × Place :=
  (place.segment?, { place.restart with state := .stop })

end Place

/-- A scan in progress: where it stands and the text ahead. -/
structure Scan where
  place : Place := {}
  ahead : List Char
deriving DecidableEq, Repr

namespace Scan

def ofText (text : List Char) : Scan := { ahead := text }

/-- Passes boundaries until a segment ends. A scan in the state of the text's end gives none. -/
def advance (ruleset : Ruleset) (place : Place) : List Char → Option Segment × Scan
  | [] =>
    if place.state = .stop then (none, ⟨place, []⟩)
    else (place.finish.1, ⟨place.finish.2, []⟩)
  | c :: ahead =>
    if place.state = .stop then (none, ⟨place, c :: ahead⟩)
    else match place.step ruleset c ahead with
      | (some segment, place) => (some segment, ⟨place, ahead⟩)
      | (none, place) => advance ruleset place ahead

/-- The next segment, and the scan after it. -/
def next (ruleset : Ruleset) (scan : Scan) : Option Segment × Scan :=
  advance ruleset scan.place scan.ahead

/-- Passes all boundaries; `found` holds the segments so far, the last one first. -/
def collect (ruleset : Ruleset) (found : List Segment) (place : Place) :
    List Char → List Segment × Scan
  | [] =>
    if place.state = .stop then (found.reverse, ⟨place, []⟩)
    else ((place.finish.1.toList ++ found).reverse, ⟨place.finish.2, []⟩)
  | c :: ahead =>
    if place.state = .stop then (found.reverse, ⟨place, c :: ahead⟩)
    else
      collect ruleset ((place.step ruleset c ahead).1.toList ++ found)
        (place.step ruleset c ahead).2 ahead

/-- All segments to come, and the scan after them. -/
def rest (ruleset : Ruleset) (scan : Scan) : List Segment × Scan :=
  collect ruleset [] scan.place scan.ahead

/-- The number of segments to come is at most this. -/
def sizeBound (scan : Scan) : Nat :=
  if scan.place.state = .stop then 0
  else Utf8.length scan.place.pending + Utf8.length scan.ahead

/-- The offset at which the next segment starts. -/
def offset (scan : Scan) : Nat := scan.place.wordStart

/-- The offsets and rules of the boundaries at which a rule is selected, the end of the text
included. -/
def trace (ruleset : Ruleset) (place : Place) : List Char → List (Nat × CompiledRule)
  | [] => if place.state = .stop then [] else entry []
  | c :: ahead =>
    if place.state = .stop then []
    else entry (c :: ahead) ++ trace ruleset (place.step ruleset c ahead).2 ahead
where
  entry (ahead : List Char) : List (Nat × CompiledRule) :=
    ((ruleset.select place.behind ahead place.state).map (place.cursor, ·)).toList

end Scan

namespace Ruleset

/-- The segments of a text. -/
def segments (ruleset : Ruleset) (text : List Char) : List Segment :=
  ((Scan.ofText text).rest ruleset).1

/-- The segments of a text without their offsets. -/
def words (ruleset : Ruleset) (text : List Char) : List String :=
  (ruleset.segments text).map (·.text)

/-- The selections of one pass over a text. -/
def trace (ruleset : Ruleset) (text : List Char) : List (Nat × CompiledRule) :=
  Scan.trace ruleset {} text

end Ruleset
end BoundaryRules
