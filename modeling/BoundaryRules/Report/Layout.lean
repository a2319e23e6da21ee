import BoundaryRules.Scan
import BoundaryRules.Text.Escape

/-!
Layouts of reports.
-/

/-! Plain reports have one entry on each line. Counts are aligned at the right of their column. -/
namespace BoundaryRules.Plain

/-- A segment with its control characters as escapes. -/
def segmentText (segment : String) : String := String.ofList (Escape.visible segment.toList)

def segmentLine (segment : String) : String := segmentText segment ++ "\n"

/-- The width of the column of counts. The first count is the greatest. -/
def countWidth (counts : List (String × Nat)) : Nat :=
  (counts.head?.map fun entry => (toString entry.2).length).getD 1

def padLeft (width : Nat) (text : String) : String :=
  String.ofList (List.replicate (width - text.length) ' ') ++ text

def padRight (width : Nat) (text : String) : String :=
  text ++ String.ofList (List.replicate (width - text.length) ' ')

def countLine (width : Nat) (entry : String × Nat) : String :=
  padLeft width (toString entry.2) ++ "\t" ++ String.ofList (Escape.visible entry.1.toList) ++ "\n"

def segmentLines (segments : List String) : String := String.join (segments.map segmentLine)

def countLines (counts : List (String × Nat)) : String :=
  String.join (counts.map (countLine (countWidth counts)))

end BoundaryRules.Plain

/-! Reports in JSON are an array of objects, indented by two spaces. -/
namespace BoundaryRules.Json

def escape (c : Char) : List Char :=
  if c = '"' ∨ c = '\\' then ['\\', c]
  else if c = '\x08' then ['\\', 'b']
  else if c = '\x0c' then ['\\', 'f']
  else if c = '\n' then ['\\', 'n']
  else if c = '\r' then ['\\', 'r']
  else if c = '\t' then ['\\', 't']
  else if c.toNat < 0x20 then ['\\', 'u'] ++ (Hex.padded 4 c.toNat).map Char.toLower
  else [c]

def quote (text : String) : String :=
  String.ofList ('"' :: text.toList.flatMap escape ++ ['"'])

/-- A field of an object, on a line of its own. -/
def field (name value : String) : String := "    " ++ quote name ++ ": " ++ value

def object (fields : List String) : String :=
  "  \x7b\n" ++ ",\n".intercalate fields ++ "\n  \x7d"

def array (objects : List String) : String :=
  if objects.isEmpty then "[]\n" else "[\n" ++ ",\n".intercalate objects ++ "\n]\n"

/-- A report of segments with the names of their sources. -/
def ofSegments (segments : List (String × Segment)) : String :=
  array (segments.map fun (source, segment) => object [
    field "source" (quote source),
    field "offset" (toString segment.offset),
    field "text" (quote segment.text)])

def ofCounts (counts : List (String × Nat)) : String :=
  array (counts.map fun (word, count) => object [
    field "word" (quote word),
    field "count" (toString count)])

end BoundaryRules.Json
