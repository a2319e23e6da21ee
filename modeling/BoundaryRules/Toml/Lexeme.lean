import BoundaryRules.Text.Escape
import BoundaryRules.Toml.Value

/-!
Lexemes of TOML documents. Comments are left out; blanks are kept, since they end a value.
-/
namespace BoundaryRules.Toml

inductive Lexeme where
  | newline
  | blank (text : String)
  | mark (c : Char)
  | quoted (multiline : Bool) (text : String)
  | bare (text : String)
deriving DecidableEq, Repr

namespace Lexeme

def isMark (c : Char) : Bool :=
  c == '[' || c == ']' || c == '{' || c == '}' || c == '=' || c == ',' || c == '.'

def isBlankChar (c : Char) : Bool := c == ' ' || c == '\t'

/-- Whether `c` may stand only as an escape. -/
def isControl (c : Char) : Bool := c != '\t' && (c.toNat < 0x20 || c.toNat == 0x7F)

def isBareChar (c : Char) : Bool :=
  !isMark c && !isBlankChar c && !isControl c && c != '"' && c != '\'' && c != '#'

/-- The character of a numeric escape. -/
def scalar? (digits : List Char) : Option Char :=
  if digits.all Hex.isDigit ∧ (Hex.value digits).isValidChar then
    some (Char.ofNat (Hex.value digits))
  else none

/-- The character of an escape of one letter. -/
def simpleEscape? : Char → Option Char
  | 'b' => some '\x08'
  | 't' => some '\t'
  | 'n' => some '\n'
  | 'f' => some '\x0c'
  | 'r' => some '\r'
  | 'e' => some '\x1b'
  | '"' => some '"'
  | '\\' => some '\\'
  | _ => none

/-- The character of an escape after its backslash, and what follows it. -/
def readEscape? : List Char → Option (Char × List Char)
  | 'x' :: a :: b :: text => (scalar? [a, b]).map (·, text)
  | 'u' :: a :: b :: c :: d :: text => (scalar? [a, b, c, d]).map (·, text)
  | 'U' :: a :: b :: c :: d :: e :: f :: g :: h :: text =>
    (scalar? [a, b, c, d, e, f, g, h]).map (·, text)
  | c :: text => (simpleEscape? c).map (·, text)
  | [] => none

/-- A string on one line after its opening quote; `taken` holds what was read, the last character
first. -/
def readBasic : Nat → List Char → List Char → Except Fault (List Char × List Char)
  | 0, _, _ => .error .unterminatedString
  | fuel + 1, taken, text =>
    match text with
    | '"' :: text => .ok (taken.reverse, text)
    | '\\' :: text =>
      match readEscape? text with
      | some (c, text) => readBasic fuel (c :: taken) text
      | none => .error .invalidEscape
    | c :: text =>
      if isControl c then .error .controlCharacter else readBasic fuel (c :: taken) text
    | [] => .error .unterminatedString

/-- A literal string on one line after its opening quote. -/
def readLiteral (taken : List Char) : List Char → Except Fault (List Char × List Char)
  | '\'' :: text => .ok (taken.reverse, text)
  | c :: text => if isControl c then .error .controlCharacter else readLiteral (c :: taken) text
  | [] => .error .unterminatedString

/-- What follows blanks and line breaks. -/
def skipBreaks : List Char → List Char
  | '\n' :: text => skipBreaks text
  | '\r' :: '\n' :: text => skipBreaks text
  | c :: text => if isBlankChar c then skipBreaks text else c :: text
  | [] => []

/-- What follows a backslash at the end of a line: white space up to the next text is skipped. -/
def skipLineEnd? (text : List Char) : Option (List Char) :=
  match text.dropWhile isBlankChar with
  | '\n' :: text => some (skipBreaks text)
  | '\r' :: '\n' :: text => some (skipBreaks text)
  | _ => none

/-- The quotes at the end of a string over several lines: of up to five the last three close it. -/
def closing? (quote : Char) (text : List Char) : Option (List Char × List Char) :=
  let quotes := (text.takeWhile (· == quote)).length
  if quotes < 3 then none
  else some (List.replicate (min quotes 5 - 3) quote, text.drop (min quotes 5))

/-- A string over several lines after its opening quotes. -/
def readMultiline (quote : Char) :
    Nat → List Char → List Char → Except Fault (List Char × List Char)
  | 0, _, _ => .error .unterminatedString
  | fuel + 1, taken, text =>
    match closing? quote text with
    | some (quotes, text) => .ok (taken.reverse ++ quotes, text)
    | none =>
      match text with
      | '\r' :: '\n' :: text => readMultiline quote fuel ('\n' :: '\r' :: taken) text
      | '\n' :: text => readMultiline quote fuel ('\n' :: taken) text
      | c :: text =>
        if c = '\\' ∧ quote = '"' then
          match skipLineEnd? text, readEscape? text with
          | some text, _ => readMultiline quote fuel taken text
          | none, some (c, text) => readMultiline quote fuel (c :: taken) text
          | none, none => .error .invalidEscape
        else if isControl c then .error .controlCharacter
        else readMultiline quote fuel (c :: taken) text
      | [] => .error .unterminatedString

/-- A line break right after the opening quotes is no part of the string. -/
def dropFirstBreak : List Char → List Char
  | '\n' :: text => text
  | '\r' :: '\n' :: text => text
  | text => text

/-- What follows a comment: the end of its line. -/
def skipComment : List Char → Except Fault (List Char)
  | [] => .ok []
  | '\n' :: text => .ok ('\n' :: text)
  | '\r' :: '\n' :: text => .ok ('\r' :: '\n' :: text)
  | c :: text => if isControl c then .error .controlCharacter else skipComment text

/-- The first lexeme, none for a comment, and what follows. -/
def read (text : List Char) : Except Fault (Option Lexeme × List Char) :=
  match text with
  | [] => .ok (none, [])
  | '\n' :: text => .ok (some .newline, text)
  | '\r' :: '\n' :: text => .ok (some .newline, text)
  | '\r' :: _ => .error .loneCarriageReturn
  | '#' :: text => (skipComment text).map (none, ·)
  | '"' :: '"' :: '"' :: text =>
    (readMultiline '"' (text.length + 1) [] (dropFirstBreak text)).map quotedLines
  | '\'' :: '\'' :: '\'' :: text =>
    (readMultiline '\'' (text.length + 1) [] (dropFirstBreak text)).map quotedLines
  | '"' :: text => (readBasic (text.length + 1) [] text).map quotedLine
  | '\'' :: text => (readLiteral [] text).map quotedLine
  | c :: more =>
    if isMark c then .ok (some (.mark c), more)
    else if isBlankChar c then
      .ok (some (.blank (String.ofList (text.takeWhile isBlankChar))), text.dropWhile isBlankChar)
    else if isBareChar c then
      .ok (some (.bare (String.ofList (text.takeWhile isBareChar))), text.dropWhile isBareChar)
    else .error .controlCharacter
where
  quotedLine (read : List Char × List Char) : Option Lexeme × List Char :=
    (some (.quoted false (String.ofList read.1)), read.2)
  quotedLines (read : List Char × List Char) : Option Lexeme × List Char :=
    (some (.quoted true (String.ofList read.1)), read.2)

/-- The lexemes of a text of at most `fuel` characters; `found` holds those before, the last one
first. -/
def scanFrom : Nat → List Lexeme → List Char → Except Fault (List Lexeme)
  | _, found, [] => .ok found.reverse
  | 0, found, _ => .ok found.reverse
  | fuel + 1, found, text =>
    match read text with
    | .ok (lexeme, rest) => scanFrom fuel (lexeme.toList ++ found) rest
    | .error fault => .error fault

/-- The lexemes of a text. A byte order mark in front is left out. -/
def scan (text : List Char) : Except Fault (List Lexeme) :=
  let text := if text.head? = some '\ufeff' then text.drop 1 else text
  scanFrom text.length [] text

end Lexeme
end BoundaryRules.Toml
