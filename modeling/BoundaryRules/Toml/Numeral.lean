import BoundaryRules.Text.Escape

/-!
Numerals of TOML documents. A numeral may be well formed and still stand for no number: an integer
lies between −2¹²⁷ and 2¹²⁸, and a number with a fraction or an exponent does not round to infinity
in double precision.
-/
namespace BoundaryRules.Toml.Numeral

def isDigit (c : Char) : Bool := '0' ≤ c && c ≤ '9'

/-- Digits with single underscores between them. -/
def isDigitRun (digit : Char → Bool) : List Char → Bool
  | [] => false
  | [c] => digit c
  | c :: '_' :: more => digit c && isDigitRun digit more
  | c :: more => digit c && isDigitRun digit more

def dropSign : List Char → List Char
  | '+' :: text => text
  | '-' :: text => text
  | text => text

/-- The value of the digits of a numeral in the given base. -/
def magnitude (base : Nat) (text : List Char) : Nat :=
  (text.filter (· != '_')).foldl (fun n c => n * base + Hex.digitValue c) 0

/-- Whether a number in scientific notation does not round to infinity: it is less than the middle
of the greatest finite number 2¹⁰²⁴ − 2⁹⁷¹ and 2¹⁰²⁴. -/
def isFinite (significand : Nat) (exponent : Int) : Bool :=
  if significand = 0 then true
  else
    let order := exponent + (Nat.toDigits 10 significand).length
    if order < 309 then true
    else if order > 309 then false
    else significand * Nat.pow 10 exponent.toNat < limit * Nat.pow 10 (-exponent).toNat
where
  limit : Nat := Nat.pow 2 1024 - Nat.pow 2 970

/-- The exponent that a number is written with, from its letter on. -/
def exponent : List Char → Int
  | _ :: '-' :: digits => -(magnitude 10 digits : Int)
  | _ :: digits => magnitude 10 (dropSign digits)
  | [] => 0

/-- Whether a number without a sign, written with a fraction or an exponent, is finite. -/
def isFiniteDecimal (text : List Char) : Bool :=
  let text := text.filter (· != '_')
  let significand := text.takeWhile fun c => isDigit c || c == '.'
  let fraction := (significand.dropWhile (· != '.')).drop 1
  isFinite (magnitude 10 (significand.filter isDigit))
    (exponent (text.drop significand.length) - fraction.length)

/-- An exponent after its letter. -/
def isExponent (text : List Char) : Bool := isDigitRun isDigit (dropSign text)

/-- What follows the integral part of a number: a fraction, an exponent, or both. -/
def isFractionOrExponent (text : List Char) : Bool :=
  match text with
  | '.' :: more =>
    let fraction := more.takeWhile fun c => isDigit c || c == '_'
    isDigitRun isDigit fraction &&
      match more.drop fraction.length with
      | [] => true
      | c :: exponent => (c == 'e' || c == 'E') && isExponent exponent
  | c :: exponent => (c == 'e' || c == 'E') && isExponent exponent
  | [] => false

/-- Whether each underscore of a text stands between digits of some base; `last` is the character
before the text. -/
def underscoresSeparate (last : Char) : List Char → Bool
  | [] => last != '_'
  | c :: text =>
    (if c == '_' then Hex.isDigit last else last != '_' || Hex.isDigit c) &&
      underscoresSeparate c text

/-- A text that is taken for an integer because of its underscores, whatever else it holds. -/
def isIntegerLike (text : List Char) : Bool :=
  text.all (fun c => c != '.' && c != 'e' && c != 'E') &&
    match text with
    | c :: more => Hex.isDigit c && underscoresSeparate c more
    | [] => false

/-- Whether a text begins with a zero that it does not need. -/
def hasIdleZero (text : List Char) : Bool :=
  text.head? == some '0' && (text.takeWhile fun c => isDigit c || c == '_').length != 1

/-- Whether a text is digits, or goes on after some with an underscore, a fraction or an
exponent. -/
def startsAsNumber (text : List Char) : Bool :=
  let rest := text.dropWhile isDigit
  text.head?.any isDigit && rest.head?.all fun c => c == '_' || c == '.' || c == 'e' || c == 'E'

/-- Reads a decimal numeral after its sign. -/
def readDecimal? (negative : Bool) (text : List Char) : Option Bool :=
  let integral := text.takeWhile fun c => isDigit c || c == '_'
  if isDigitRun isDigit text then
    some (if negative then magnitude 10 text ≤ Nat.pow 2 127 else magnitude 10 text < Nat.pow 2 128)
  else if isDigitRun isDigit integral && isFractionOrExponent (text.drop integral.length) then
    some (isFiniteDecimal text)
  else if isIntegerLike text then some false
  else none

/-- Reads what follows a sign. -/
def readSigned? (negative : Bool) (text : List Char) : Option Bool :=
  if text == "inf".toList || text == "nan".toList then some true
  else if startsAsNumber text && !hasIdleZero text then readDecimal? negative text
  else none

/-- Reads the digits of an integer in a base that is marked. They may be missing. -/
def readBased? (base : Nat) (digit : Char → Bool) (digits : List Char) : Option Bool :=
  if digits.isEmpty then some false
  else if isDigitRun digit digits then some (magnitude base digits < Nat.pow 2 128)
  else none

/-- Reads a numeral: whether it stands for a number. Another text is none. -/
def read? : List Char → Option Bool
  | '0' :: 'x' :: digits => readBased? 16 Hex.isDigit digits
  | '0' :: 'o' :: digits => readBased? 8 (fun c => '0' ≤ c && c ≤ '7') digits
  | '0' :: 'b' :: digits => readBased? 2 (fun c => c == '0' || c == '1') digits
  | '-' :: text => readSigned? true text
  | '+' :: text => readSigned? false text
  | text => readSigned? false text

end BoundaryRules.Toml.Numeral
