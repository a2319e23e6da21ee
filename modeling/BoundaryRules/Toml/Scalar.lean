import BoundaryRules.Toml.Numeral
import BoundaryRules.Toml.Value

/-!
The unquoted values of TOML: booleans, numbers, dates and times.
-/
namespace BoundaryRules.Toml.Scalar

open Numeral (isDigit magnitude)

/-- The number of exactly `width` digits, and what follows them. -/
def readDigits? (width : Nat) (text : List Char) : Option (Nat × List Char) :=
  let digits := text.take width
  if digits.length = width ∧ digits.all isDigit then
    some (magnitude 10 digits, text.drop width)
  else none

/-- What follows `c`. -/
def expect? (c : Char) : List Char → Option (List Char)
  | d :: text => if c = d then some text else none
  | [] => none

def isLeapYear (year : Nat) : Bool := year % 4 == 0 && (year % 100 != 0 || year % 400 == 0)

def daysInMonth (year month : Nat) : Nat :=
  if month == 2 then if isLeapYear year then 29 else 28
  else if month == 4 || month == 6 || month == 9 || month == 11 then 30 else 31

/-- What follows a date. -/
def readDate? (text : List Char) : Option (List Char) := do
  let (year, text) ← readDigits? 4 text
  let (month, text) ← readDigits? 2 (← expect? '-' text)
  let (day, text) ← readDigits? 2 (← expect? '-' text)
  if 1 ≤ month ∧ month ≤ 12 ∧ 1 ≤ day ∧ day ≤ daysInMonth year month then some text else none

/-- What follows a time of day; seconds and their fraction may be left out. -/
def readTime? (text : List Char) : Option (List Char) := do
  let (hour, text) ← readDigits? 2 text
  let (minute, text) ← readDigits? 2 (← expect? ':' text)
  if hour ≥ 24 ∨ minute ≥ 60 then none
  else match text with
    | ':' :: text =>
      let (second, text) ← readDigits? 2 text
      if second > 60 then none
      else match text with
        | '.' :: text =>
          if (text.takeWhile isDigit).isEmpty then none else some (text.dropWhile isDigit)
        | text => some text
    | text => some text

/-- Whether a text is nothing or an offset from universal time. -/
def isOffset (text : List Char) : Bool :=
  match text with
  | [] => true
  | [c] => c == 'Z' || c == 'z'
  | sign :: text =>
    (sign == '+' || sign == '-') && ((do
      let (hour, text) ← readDigits? 2 text
      let (minute, text) ← readDigits? 2 (← expect? ':' text)
      if hour < 24 ∧ minute < 60 ∧ text.isEmpty then some () else none) : Option Unit).isSome

/-- A date, a time, or both with an optional offset. -/
def isDate (text : List Char) : Bool :=
  match readDate? text with
  | some [] => true
  | some (c :: time) =>
    (c == 'T' || c == 't' || c == ' ') && (readTime? time).any isOffset
  | none => (readTime? text).any List.isEmpty

/-- Reads an unquoted value. -/
def read? (text : String) : Option Value :=
  if text = "true" then some (.boolean true)
  else if text = "false" then some (.boolean false)
  else match Numeral.read? text.toList with
    | some representable => some (.number representable)
    | none => if isDate text.toList then some .date else none

end BoundaryRules.Toml.Scalar
