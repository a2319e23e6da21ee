/-!
Values of TOML documents. What a number or a date says is not kept, only whether a number can be
represented.
-/
namespace BoundaryRules.Toml

inductive Value where
  | string (text : String)
  | number (representable : Bool)
  | boolean (value : Bool)
  | date
  | array (items : List Value)
  | table (entries : List (String × Value))
deriving Repr

/-- Why a text is no document. -/
inductive Fault where
  | controlCharacter
  | loneCarriageReturn
  | unterminatedString
  | invalidEscape
  | invalidScalar (text : String)
  | keyExpected
  | equalsExpected
  | valueExpected
  | unterminatedArray
  | unterminatedTable
  | unterminatedHeader
  | tooDeep
  | endOfLineExpected
  | duplicateKey (key : String)
  | notExtensible (key : String)
deriving DecidableEq, Repr

def Fault.message : Fault → String
  | controlCharacter => "control character"
  | loneCarriageReturn => "carriage return without line feed"
  | unterminatedString => "unterminated string"
  | invalidEscape => "invalid escape"
  | invalidScalar text => s!"invalid value `{text}`"
  | keyExpected => "expected a key"
  | equalsExpected => "expected `=`"
  | valueExpected => "expected a value"
  | unterminatedArray => "unterminated array"
  | unterminatedTable => "unterminated inline table"
  | unterminatedHeader => "unterminated table header"
  | tooDeep => "nested too deeply"
  | endOfLineExpected => "expected the end of the line"
  | duplicateKey key => s!"duplicate key `{key}`"
  | notExtensible key => s!"`{key}` cannot be extended"

/-- The value under a key of a table. -/
def lookup? (entries : List (String × Value)) (key : String) : Option Value :=
  (entries.find? (·.1 = key)).map (·.2)

namespace Value

mutual

/-- Whether every number in a value can be represented. -/
def isRepresentable : Value → Bool
  | number representable => representable
  | array items => areRepresentable items
  | table entries => entriesAreRepresentable entries
  | _ => true

def areRepresentable : List Value → Bool
  | [] => true
  | item :: items => item.isRepresentable && areRepresentable items

def entriesAreRepresentable : List (String × Value) → Bool
  | [] => true
  | (_, value) :: entries => value.isRepresentable && entriesAreRepresentable entries

end

end Value
end BoundaryRules.Toml
