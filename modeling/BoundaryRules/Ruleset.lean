import BoundaryRules.ClassIndex
import BoundaryRules.Rule

/-!
Rulesets: rules whose class names are resolved in a class index, filed in buckets by the two
classes next to the boundary. Within a bucket longer contexts come first, then rules with a
definite target, then earlier definitions.
-/
namespace BoundaryRules

/-- A rule that mentions a class its index does not have. -/
structure UnknownClass where
  rule : String
  cls : String
deriving DecidableEq, Repr

def UnknownClass.message (unknown : UnknownClass) : String :=
  let rule := unknown.rule
  let cls := unknown.cls
  s!"rule '{rule}' references unknown class '{cls}'"

/-- The two classes next to a boundary. -/
structure BoundaryKey where
  before : ClassId
  after : ClassId
deriving DecidableEq, Repr

/-- A rule with its class names resolved. -/
structure CompiledRule where
  rule : Rule
  left : List ClassId
  right : List ClassId
  target : ClassId
deriving DecidableEq, Repr

namespace CompiledRule

/-- Resolves the class names of a rule, left context first and target last. -/
def compile (index : ClassIndex) (rule : Rule) : Except UnknownClass CompiledRule := do
  let left ← rule.left.mapM resolve
  let right ← rule.right.mapM resolve
  let target ← resolve rule.target
  return ⟨rule, left, right, target⟩
where
  resolve (name : String) : Except UnknownClass ClassId :=
    match index.id? name with
    | some id => .ok id
    | none => .error ⟨rule.name, name⟩

/-- The classes next to the boundary. Contexts of a compiled rule are not empty. -/
def key (rule : CompiledRule) : BoundaryKey := ⟨rule.left.getLastD .any, rule.right.headD .any⟩

/-- The number of classes in both contexts. -/
def length (rule : CompiledRule) : Nat := rule.left.length + rule.right.length

def action (rule : CompiledRule) : Action := rule.rule.action

/-- Whether `a` may stand before `b` in a bucket. -/
def precedes (a b : CompiledRule) : Bool :=
  b.length < a.length || a.length == b.length && (a.target != .any || b.target == .any)

end CompiledRule

/-- The rules of one key. -/
structure Bucket where
  key : BoundaryKey
  rules : List CompiledRule
deriving DecidableEq, Repr

namespace Bucket

/-- Files a rule last in the bucket of its key, or in a new one. -/
def file (buckets : List Bucket) (rule : CompiledRule) : List Bucket :=
  match buckets with
  | [] => [⟨rule.key, [rule]⟩]
  | bucket :: more =>
    if bucket.key = rule.key then ⟨bucket.key, bucket.rules ++ [rule]⟩ :: more
    else bucket :: file more rule

def sorted (bucket : Bucket) : Bucket := ⟨bucket.key, sortStable CompiledRule.precedes bucket.rules⟩

/-- The buckets of rules given in the order of definition. -/
def ofRules (rules : List CompiledRule) : List Bucket := (rules.foldl file []).map sorted

end Bucket

structure Ruleset where
  classes : ClassIndex
  rules : List Rule
  buckets : List Bucket
deriving DecidableEq, Repr

namespace Ruleset

/-- Compiles rules over an index. -/
def compile (classes : ClassIndex) (rules : List Rule) : Except UnknownClass Ruleset :=
  (rules.mapM (CompiledRule.compile classes)).map fun compiled =>
    ⟨classes, rules, Bucket.ofRules compiled⟩

/-- The rules filed under a key, those to prefer first. -/
def bucket (ruleset : Ruleset) (key : BoundaryKey) : List CompiledRule :=
  ((ruleset.buckets.find? (·.key = key)).map (·.rules)).getD []

end Ruleset
end BoundaryRules
