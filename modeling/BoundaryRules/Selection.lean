import BoundaryRules.Ruleset

/-!
Selection of the rule for a boundary. The text is given by what lies behind the boundary, the
nearest character first, and what lies ahead of it.
-/
namespace BoundaryRules

/-- Whether a character is of the class that a context asks for. -/
def ClassIndex.admits (index : ClassIndex) (expected : ClassId) (c : Char) : Bool :=
  expected = .any || index.classOf c = expected

/-- Whether a context, nearest class first, matches the characters on its side. Past the last
character only `edge` matches, and only once. -/
def ClassIndex.matchesSide (index : ClassIndex) (edge : ClassId) :
    List ClassId → List Char → Bool
  | [], _ => true
  | expected :: context, c :: text => index.admits expected c && index.matchesSide edge context text
  | expected :: context, [] => expected = edge && context.isEmpty

namespace Ruleset

def matchesBehind (ruleset : Ruleset) (context : List ClassId) (behind : List Char) : Bool :=
  ruleset.classes.matchesSide .start context.reverse behind

def matchesAhead (ruleset : Ruleset) (context : List ClassId) (ahead : List Char) : Bool :=
  ruleset.classes.matchesSide .stop context ahead

/-- Whether both contexts of a rule match. -/
def verify (ruleset : Ruleset) (behind ahead : List Char) (rule : CompiledRule) : Bool :=
  ruleset.matchesBehind rule.left behind && ruleset.matchesAhead rule.right ahead

/-- The rule of one bucket. A rule alone in its bucket is taken as it is; of several the first
whose contexts match. -/
def selectFrom (ruleset : Ruleset) (behind ahead : List Char) (key : BoundaryKey) :
    Option CompiledRule :=
  match ruleset.bucket key with
  | [] => none
  | [rule] => some rule
  | rules => rules.find? (ruleset.verify behind ahead)

/-- The class of the next character, or the edge after the text. -/
def nextClass (ruleset : Ruleset) : List Char → ClassId
  | [] => .stop
  | c :: _ => ruleset.classes.classOf c

/-- The keys to look under, the definite ones first. -/
def tiers (state next : ClassId) : List BoundaryKey :=
  [⟨state, next⟩, ⟨state, .any⟩, ⟨.any, next⟩, ⟨.any, .any⟩]

/-- The rule for a boundary that is reached in the given state. -/
def select (ruleset : Ruleset) (behind ahead : List Char) (state : ClassId) :
    Option CompiledRule :=
  (tiers state (ruleset.nextClass ahead)).findSome? (ruleset.selectFrom behind ahead)

end Ruleset
end BoundaryRules
