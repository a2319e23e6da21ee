import BoundaryRules.ClassName

/-!
Boundary rules. A rule names the classes on both sides of a boundary, what is done there, and the
class that the text is taken to be in afterwards.
-/
namespace BoundaryRules

/-- What a rule does at its boundary. -/
inductive Action where
  /-- A word ends. -/
  | cut
  /-- The word goes on. -/
  | join
  /-- The word goes on as if its last character were of the rule's target class. -/
  | absorb
deriving DecidableEq, Repr

/-- The operator of the rule notation. -/
def Action.symbol : Action → Char
  | cut => '÷'
  | join => '×'
  | absorb => '→'

/-- A rule over normalized class names. The class next to the boundary is the last of `left` and
the first of `right`. -/
structure Rule where
  name : String
  left : List String
  right : List String
  target : String
  action : Action
  left_ne_nil : left ≠ []
  right_ne_nil : right ≠ []
  ne_empty : ∀ cls ∈ left ++ right ++ [target], cls ≠ ""
  one_state : action = .absorb → left.length = 1
deriving DecidableEq, Repr

namespace Rule

/-- Why parts do not make a rule. -/
inductive Fault where
  | emptyLeft
  | emptyRight
  | emptyClassName
  | severalStates
deriving DecidableEq, Repr

def Fault.message : Fault → String
  | emptyLeft => "left context is empty"
  | emptyRight => "right context is empty"
  | emptyClassName => "empty class name"
  | severalStates => "transform rule must have exactly one state class"

/-- A rule that could not be made, by its name. -/
structure Invalid where
  name : String
  fault : Fault
deriving DecidableEq, Repr

def Invalid.message (invalid : Invalid) : String :=
  let name := invalid.name
  let reason := invalid.fault.message
  s!"invalid rule '{name}': {reason}"

/-- Makes a rule; the class names are normalized. -/
def make (name : String) (left right : List String) (target : String) (action : Action) :
    Except Invalid Rule :=
  let left := left.map normalizeName
  let right := right.map normalizeName
  let target := normalizeName target
  if hl : left = [] then .error ⟨name, .emptyLeft⟩
  else if hr : right = [] then .error ⟨name, .emptyRight⟩
  else if he : ∀ cls ∈ left ++ right ++ [target], cls ≠ "" then
    if hs : action = .absorb → left.length = 1 then
      .ok ⟨name, left, right, target, action, hl, hr, he, hs⟩
    else .error ⟨name, .severalStates⟩
  else .error ⟨name, .emptyClassName⟩

/-- The class right before the boundary. -/
def lastOfLeft (rule : Rule) : String := rule.left.getLast rule.left_ne_nil

/-- The class right after the boundary. -/
def firstOfRight (rule : Rule) : String := rule.right.head rule.right_ne_nil

/-- The number of classes in both contexts. -/
def length (rule : Rule) : Nat := rule.left.length + rule.right.length

/-- All names that a rule mentions: left context, right context, target. -/
def classNames (rule : Rule) : List String := rule.left ++ rule.right ++ [rule.target]

/-- The form `NAME:(L1,L2)+(R1)=>TARGET ×`. -/
def text (rule : Rule) : String :=
  let name := rule.name
  let left := ",".intercalate rule.left
  let right := ",".intercalate rule.right
  let target := rule.target
  let symbol := rule.action.symbol
  s!"{name}:({left})+({right})=>{target} {symbol}"

end Rule
end BoundaryRules
