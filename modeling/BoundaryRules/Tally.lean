import BoundaryRules.BestOf
import BoundaryRules.Scan
import BoundaryRules.Unicode.LetterOrNumber
import BoundaryRules.Unicode.Text

/-!
Word filters, tallies of words over one or several documents, and their ranking by count. Counts
and positions have sixty-four bits and wrap around.
-/
namespace BoundaryRules

/-- Which segments count as words, and in which spelling. -/
structure WordFilter where
  /-- The spelling to count a segment under, none if it does not count. -/
  apply : String → Option String

namespace WordFilter

/-- Segments that start with a letter or a number, in small letters if they hold capitals. -/
def words (lowercase : Bool) : WordFilter where
  apply segment :=
    if segment.toList.head?.any Unicode.isLetterOrNumber then
      if lowercase && segment.toList.any Unicode.isUppercase then
        some (String.ofList (Unicode.toLower segment.toList))
      else some segment
    else none

/-- All segments as they are. -/
def all : WordFilter where
  apply := some

/-- All segments in small letters. -/
def allLowercase : WordFilter where
  apply segment := some (String.ofList (Unicode.toLower segment.toList))

end WordFilter

/-- A word with its count and the position of its first occurrence. -/
structure TallyEntry where
  word : String
  count : UInt64
  firstSeen : UInt64
deriving DecidableEq, Repr

/-- The words counted, in the order of their first occurrences, and the number of occurrences. -/
structure Tally where
  entries : List TallyEntry := []
  total : UInt64 := 0
deriving DecidableEq, Repr

namespace Tally

/-- Adds the count of an entry to the entry of the same word, or the entry at the end. -/
def addTo (entries : List TallyEntry) (entry : TallyEntry) : List TallyEntry :=
  match entries with
  | [] => [entry]
  | e :: more =>
    if e.word = entry.word then { e with count := e.count + entry.count } :: more
    else e :: addTo more entry

/-- Counts one occurrence. -/
def add (tally : Tally) (word : String) : Tally :=
  ⟨addTo tally.entries ⟨word, 1, tally.total⟩, tally.total + 1⟩

def addAll (tally : Tally) (words : List String) : Tally := words.foldl add tally

/-- Counts all that another tally counted, as if it came after. -/
def merge (tally other : Tally) : Tally :=
  ⟨other.entries.foldl (fun entries entry =>
    addTo entries { entry with firstSeen := tally.total + entry.firstSeen }) tally.entries,
    tally.total + other.total⟩

/-- The number of different words. -/
def size (tally : Tally) : Nat := tally.entries.length

def isEmpty (tally : Tally) : Bool := tally.entries.isEmpty

def count (tally : Tally) (word : String) : UInt64 :=
  ((tally.entries.find? (·.word = word)).map (·.count)).getD 0

/-- Entries are ranked by count, and those of one count by their first occurrences. -/
def ranksBelow (a b : TallyEntry) : Bool :=
  a.count < b.count || a.count == b.count && b.firstSeen ≤ a.firstSeen

/-- The bytes of an entry while it is ranked: its word by reference, and its two numbers. -/
def rankedSize : Nat := 32

/-- The `n` most frequent words with their counts. -/
def top (tally : Tally) (n : UInt64) : Except Halt (List (String × Nat)) :=
  if n = 0 then .error (.error .zeroCount)
  else (BestOf.ofCapacity rankedSize n).map fun (best : BestOf TallyEntry ranksBelow) =>
    (best.extend tally.entries).descending.map fun entry => (entry.word, entry.count.toNat)

end Tally

/-- A way to count the words of texts. -/
structure WordCounter where
  ruleset : Ruleset
  filter : WordFilter

namespace WordCounter

/-- The words of a text that count. -/
def words (counter : WordCounter) (text : List Char) : List String :=
  (counter.ruleset.words text).filterMap counter.filter.apply

/-- Adds the words of a text to a tally. -/
def tallyInto (counter : WordCounter) (text : List Char) (tally : Tally) : Tally :=
  tally.addAll (counter.words text)

def tally (counter : WordCounter) (text : List Char) : Tally := counter.tallyInto text {}

/-- The `n` most frequent words of a text. -/
def topWords (counter : WordCounter) (text : List Char) (n : UInt64) :
    Except Halt (List (String × Nat)) :=
  if n = 0 then .error (.error .zeroCount)
  else if text.isEmpty then .ok []
  else (counter.tally text).top n

end WordCounter
end BoundaryRules
