import BoundaryRules.Unicode.CaseProperties
import BoundaryRules.Unicode.LowerMapping
import BoundaryRules.Unicode.UpperMapping

/-!
White space and letter case in whole texts. Only lower-casing depends on context: a capital sigma at
the end of a word becomes the final form.
-/
namespace BoundaryRules.Unicode

/-- Ranges of the property White_Space above the ASCII characters. -/
def whiteSpaceRanges : RangeTable := #[
  (0x85, 0x85), (0xA0, 0xA0), (0x1680, 0x1680), (0x2000, 0x200A), (0x2028, 0x2029),
  (0x202F, 0x202F), (0x205F, 0x205F), (0x3000, 0x3000)]

/-- Membership in the property White_Space. -/
def isWhiteSpace (c : Char) : Bool :=
  if c.toNat < 0x80 then c == ' ' || ('\t' ≤ c && c ≤ '\r') else whiteSpaceRanges.contains c.toNat

/-- `text` without the white space at its ends. -/
def trim (text : List Char) : List Char :=
  ((text.dropWhile isWhiteSpace).reverse.dropWhile isWhiteSpace).reverse

/-- Whether `text` is white space only. -/
def isBlank (text : List Char) : Bool := text.all isWhiteSpace

/-- The capital form of one character; below 128 the tables agree with core. -/
def upperForm (c : Char) : List Char :=
  if c.toNat < 0x80 then [c.toUpper] else uppercaseMapping.apply c

/-- The small form of one character outside of any context. -/
def lowerForm (c : Char) : List Char :=
  if c.toNat < 0x80 then [c.toLower] else lowercaseMapping.apply c

def toUpper (text : List Char) : List Char := text.flatMap upperForm

/-- Whether a cased character is reached by passing case-ignorable ones only. -/
def reachesCased (text : List Char) : Bool :=
  (text.dropWhile isCaseIgnorable).head?.any isCased

/-- Lower-cases what follows `behind`, the text before it with the nearest character first. -/
def toLowerFrom (behind : List Char) : List Char → List Char
  | [] => []
  | c :: ahead =>
    (if c = 'Σ' then
      if reachesCased behind && !reachesCased ahead then ['ς'] else ['σ']
    else lowerForm c) ++ toLowerFrom (c :: behind) ahead

def toLower (text : List Char) : List Char := toLowerFrom [] text

theorem toUpper_append (s t : List Char) : toUpper (s ++ t) = toUpper s ++ toUpper t :=
  List.flatMap_append

end BoundaryRules.Unicode
