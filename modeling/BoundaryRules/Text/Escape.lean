import BoundaryRules.Unicode.Printable

/-!
Hexadecimal numerals, escapes that keep a text on one line, and quoted texts.
-/

/-! Numerals are written in capitals and read in either case. -/
namespace BoundaryRules.Hex

def isDigit (c : Char) : Bool :=
  ('0' ≤ c && c ≤ '9') || ('A' ≤ c && c ≤ 'F') || ('a' ≤ c && c ≤ 'f')

/-- The value of a digit. -/
def digitValue (c : Char) : Nat :=
  if c ≤ '9' then c.toNat - '0'.toNat
  else if c ≤ 'F' then c.toNat - 'A'.toNat + 10
  else c.toNat - 'a'.toNat + 10

/-- The value of a numeral of any length. -/
def value (digits : List Char) : Nat := digits.foldl (fun n c => n * 16 + digitValue c) 0

def digit (n : Nat) : Char :=
  if n < 10 then Char.ofNat ('0'.toNat + n) else Char.ofNat ('A'.toNat + n - 10)

/-- The shortest numeral of `n`. -/
def digits (n : Nat) : List Char :=
  if n < 16 then [digit n] else digits (n / 16) ++ [digit (n % 16)]

/-- The numeral of `n` with zeros in front where it is shorter than `width`. -/
def padded (width n : Nat) : List Char :=
  List.replicate (width - (digits n).length) '0' ++ digits n

end BoundaryRules.Hex

/-! Control characters are written as backslash sequences. -/
namespace BoundaryRules.Escape

/-- Small hexadecimal digits in braces. -/
def unicode (c : Char) : List Char :=
  ['\\', 'u', '\x7b'] ++ (Hex.digits c.toNat).map Char.toLower ++ ['\x7d']

/-- The general category Cc. -/
def isControl (c : Char) : Bool := c.toNat < 0x20 || (0x7F ≤ c.toNat && c.toNat < 0xA0)

/-- A control character as an escape, any other as it is. -/
def char (c : Char) : List Char :=
  if c = '\t' then ['\\', 't']
  else if c = '\r' then ['\\', 'r']
  else if c = '\n' then ['\\', 'n']
  else if isControl c then unicode c
  else [c]

/-- A text without control characters that shows where they were. -/
def visible (text : List Char) : List Char := text.flatMap char

end BoundaryRules.Escape

/-! Between quotes, backslashes and invisible characters are shown as escapes as well. -/
namespace BoundaryRules.Quoted

def escape (c : Char) : List Char :=
  if c = '\x00' then ['\\', '0']
  else if c = '\t' then ['\\', 't']
  else if c = '\n' then ['\\', 'n']
  else if c = '\r' then ['\\', 'r']
  else if c = '"' ∨ c = '\\' then ['\\', c]
  else if Unicode.isPlain c then [c]
  else Escape.unicode c

def quote (text : String) : String :=
  String.ofList ('"' :: text.toList.flatMap escape ++ ['"'])

end BoundaryRules.Quoted
