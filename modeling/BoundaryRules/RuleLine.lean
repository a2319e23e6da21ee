import BoundaryRules.ClassName
import BoundaryRules.Odometer
import BoundaryRules.Text.Lines
import BoundaryRules.Token

/-!
Rule lines, `NAME [PATTERN] OPERATOR [PATTERN]`. A pattern is a sequence of names and of groups
such as `(CR | LF)`. A line stands for one rule for each choice of one class from every element. The
memory for the rules of a line is not modelled: lines of more than about 2^56 choices, for which it
cannot be set aside, are outside.
-/
namespace BoundaryRules.RuleLine

/-- Why a line is no rule line. -/
inductive Reason where
  | missingName
  | nameExpected (found : Token)
  | missingOperator
  | operatorExpected (found : Token)
  | trailing (found : Token)
  | noClasses (name : String)
  | emptyGroup
  | unterminatedGroup
  | classExpected (found : Token)
  | separatorExpected (found : Token)
  | absorbShape
  | invalidRule (invalid : Rule.Invalid)
deriving DecidableEq, Repr

def Reason.message : Reason → String
  | missingName => "missing rule name"
  | nameExpected found => "expected rule name, found `" ++ found.text ++ "`"
  | missingOperator => "missing operator"
  | operatorExpected found => "expected operator, found `" ++ found.text ++ "`"
  | trailing found => "unexpected token `" ++ found.text ++ "` at end of line"
  | noClasses name => "macro `" ++ name ++ "` expands to no classes"
  | emptyGroup => "empty alternation group"
  | unterminatedGroup => "unterminated alternation group"
  | classExpected found => "expected class name, found `" ++ found.text ++ "`"
  | separatorExpected found => "expected `|` or `)`, found `" ++ found.text ++ "`"
  | absorbShape => "transform needs a state and a pattern before `→` and one target after it"
  | invalidRule invalid => invalid.message

abbrev Fault := LineFault Reason

/-- A pattern: for each of its elements the classes to choose from. -/
abbrev Pattern := List (List String)

/-- A pattern that was read, with the tokens after it. -/
abbrev Read := Except Reason (Pattern × List Token)

mutual

/-- Reads elements up to a token that starts none; `elements` are those before. -/
def readPattern (aliases : Aliases) (elements : Pattern) : List Token → Read
  | .name name :: tokens =>
    if (aliases.expand name).isEmpty then .error (.noClasses name)
    else readPattern aliases (elements ++ [aliases.expand name]) tokens
  | .leftParen :: tokens => readChoice aliases elements [] tokens
  | tokens => .ok (elements, tokens)

/-- Reads a name inside a group; `choices` are the classes of the names before it. -/
def readChoice (aliases : Aliases) (elements : Pattern) (choices : List String) :
    List Token → Read
  | .name name :: tokens => readSeparator aliases elements (choices ++ aliases.expand name) tokens
  | .rightParen :: _ => .error (if choices.isEmpty then .emptyGroup else .classExpected .rightParen)
  | token :: _ => .error (.classExpected token)
  | [] => .error .unterminatedGroup

/-- Reads what follows a name inside a group. -/
def readSeparator (aliases : Aliases) (elements : Pattern) (choices : List String) :
    List Token → Read
  | .bar :: tokens => readChoice aliases elements choices tokens
  | .rightParen :: tokens => readPattern aliases (elements ++ [choices]) tokens
  | token :: _ => .error (.separatorExpected token)
  | [] => .error .unterminatedGroup

end

/-- A line with its patterns read. -/
structure Sketch where
  name : String
  left : Pattern
  action : Action
  right : Pattern
deriving DecidableEq, Repr

/-- Reads the tokens of a line. -/
def Sketch.ofTokens (aliases : Aliases) (tokens : List Token) : Except Reason Sketch := do
  let (name, tokens) ← match tokens with
    | .name name :: tokens => .ok (name, tokens)
    | token :: _ => .error (.nameExpected token)
    | [] => .error .missingName
  let (left, tokens) ← readPattern aliases [] tokens
  let (action, tokens) ← match tokens with
    | .operator action :: tokens => .ok (action, tokens)
    | token :: _ => .error (.operatorExpected token)
    | [] => .error .missingOperator
  let (right, tokens) ← readPattern aliases [] tokens
  match tokens with
  | token :: _ => .error (.trailing token)
  | [] =>
    if action = .absorb ∧ (left.length < 2 ∨ right.length ≠ 1) then .error .absorbShape
    else .ok ⟨name, left, action, right⟩

/-- A context as given, or the wildcard alone for an empty one. -/
def orAny (context : List String) : List String := if context.isEmpty then ["ANY"] else context

/-- The rule of one choice. An absorbing rule is written with its state and what it absorbs before
the operator and its target after it. -/
def toRule (name : String) (action : Action) (left right : List String) :
    Except Rule.Invalid Rule :=
  match action with
  | .absorb => Rule.make name (left.take 1) (left.drop 1) (right.headD "") .absorb
  | action => Rule.make name (orAny left) (orAny right) (right.headD "ANY") action

/-- The rules of all choices, those of the left pattern outermost. -/
def Sketch.rules (sketch : Sketch) : Except Rule.Invalid (List Rule) :=
  ((combinations sketch.left).flatMap fun left =>
    (combinations sketch.right).map fun right => (left, right)).mapM fun (left, right) =>
      toRule sketch.name sketch.action left right

/-- Reads one line. -/
def read (aliases : Aliases) (line : List Char) : Except Reason (List Rule) := do
  let sketch ← Sketch.ofTokens aliases (Token.scan line)
  sketch.rules.mapError .invalidRule

def readLine (aliases : Aliases) (number : Option Nat) (line : List Char) :
    Except Fault (List Rule) :=
  (read aliases line).mapError fun reason => ⟨String.ofList line, number, reason⟩

/-- Reads every line that defines something, each on its own. -/
def readLines (aliases : Aliases) (text : List Char) : List (Nat × Except Fault (List Rule)) :=
  (definitionLines text).map fun (n, line) => (n, readLine aliases (some n) line)

/-- Reads a text whose lines are all well formed. -/
def readAll (aliases : Aliases) (text : List Char) : Except Fault (List Rule) :=
  ((readLines aliases text).mapM Prod.snd).map List.flatten

end BoundaryRules.RuleLine
