import BoundaryRules.Rule
import BoundaryRules.Unicode.Text

/-!
Tokens of the rule notation. White space separates tokens; seven characters are tokens of their
own, and every maximal run of other characters is a name.
-/
namespace BoundaryRules

inductive Token where
  | leftParen
  | rightParen
  | bar
  | operator (action : Action)
  | star
  | name (text : String)
deriving DecidableEq, Repr

namespace Token

/-- The token that a character is on its own. -/
def ofReserved? : Char → Option Token
  | '(' => some .leftParen
  | ')' => some .rightParen
  | '|' => some .bar
  | '÷' => some (.operator .cut)
  | '×' => some (.operator .join)
  | '→' => some (.operator .absorb)
  | '*' => some .star
  | _ => none

/-- The token as written. -/
def text : Token → String
  | leftParen => "("
  | rightParen => ")"
  | bar => "|"
  | operator action => String.singleton action.symbol
  | star => "*"
  | name text => text

def isOperator : Token → Bool
  | operator _ => true
  | _ => false

/-- The name that ends here, held with its last character first, in front of further tokens. -/
def finishName (run : List Char) (tokens : List Token) : List Token :=
  if run.isEmpty then tokens else .name (String.ofList run.reverse) :: tokens

/-- Tokens of what follows an unfinished name, held with its last character first. -/
def scanFrom (run : List Char) : List Char → List Token
  | [] => finishName run []
  | c :: text =>
    match ofReserved? c with
    | some token => finishName run (token :: scanFrom [] text)
    | none =>
      if Unicode.isWhiteSpace c then finishName run (scanFrom [] text)
      else scanFrom (c :: run) text

/-- The tokens of a line. -/
def scan (line : List Char) : List Token := scanFrom [] line

end Token
end BoundaryRules
