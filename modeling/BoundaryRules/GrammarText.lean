import BoundaryRules.ClassRecord
import BoundaryRules.RuleLine
import BoundaryRules.Ruleset

/-!
Rulesets from grammar texts: a text of class records and a text of rule lines. Reading is strict
and stops at the first fault, or lenient and leaves out what is at fault with a warning.
-/
namespace BoundaryRules

/-- How faults in the lines of a grammar are treated. -/
inductive Mode where
  | strict
  | lenient
deriving DecidableEq, Repr

def Mode.title : Mode → String
  | strict => "Strict"
  | lenient => "Lenient"

/-- What was found questionable, or left out, while a grammar was loaded. -/
inductive Warning where
  | overlap (overlap : Overlap)
  | skippedRecord (fault : ClassRecord.Fault)
  | skippedRule (fault : RuleLine.Fault)
  | droppedRule (rule : Rule) (unknown : String)
deriving DecidableEq, Repr

def Warning.message : Warning → String
  | overlap ⟨former, latter, codepoint⟩ =>
    let codepoint := String.ofList (Hex.padded 4 codepoint)
    s!"classes {former} and {latter} overlap at {codepoint}"
  | skippedRecord fault => "skipping class record: " ++ fault.message ClassRecord.Reason.message
  | skippedRule fault => "skipping rule: " ++ fault.message RuleLine.Reason.message
  | droppedRule rule unknown =>
    let rule := rule.text
    s!"dropping rule {rule}: unknown class {unknown}"

/-- Why a grammar was not loaded. -/
inductive LoadFault where
  | record (fault : ClassRecord.Fault)
  | index (fault : ClassIndex.Fault)
  | rule (fault : RuleLine.Fault)
  | unknownClass (unknown : UnknownClass)
deriving DecidableEq, Repr

/-- The result of loading a grammar, with the warnings up to the point where it ended. -/
structure Loading where
  warnings : List Warning
  result : Except LoadFault Ruleset

/-- What is read of lines: all of them in strict mode, the good ones in lenient mode. -/
def Mode.read {ε β : Type} (mode : Mode) (readings : List (Nat × Except ε β)) :
    Except ε (List β) :=
  match mode with
  | .strict => readings.mapM Prod.snd
  | .lenient => .ok (readings.filterMap (·.2.toOption))

/-- The faults that are left out: none in strict mode. -/
def Mode.skipped {ε β : Type} (mode : Mode) (readings : List (Nat × Except ε β)) : List ε :=
  match mode with
  | .strict => []
  | .lenient => readings.filterMap fun (_, reading) =>
    match reading with
    | .error fault => some fault
    | .ok _ => none

/-- The first name in a rule that the index does not have. -/
def ClassIndex.unknownIn? (index : ClassIndex) (rule : Rule) : Option String :=
  rule.classNames.find? fun name => (index.id? name).isNone

/-- The rules that are kept: all of them in strict mode, else those without unknown names. -/
def Mode.keep (mode : Mode) (index : ClassIndex) (rules : List Rule) : List Rule :=
  match mode with
  | .strict => rules
  | .lenient => rules.filter fun rule => (index.unknownIn? rule).isNone

def Mode.dropped (mode : Mode) (index : ClassIndex) (rules : List Rule) : List Warning :=
  match mode with
  | .strict => []
  | .lenient => rules.filterMap fun rule => (index.unknownIn? rule).map (.droppedRule rule)

namespace GrammarText

/-- Compiles rule lines over an index. -/
def loadRules (aliases : Aliases) (mode : Mode) (index : ClassIndex) (text : List Char) : Loading :=
  let readings := RuleLine.readLines aliases text
  let skipped := (mode.skipped readings).map Warning.skippedRule
  match mode.read readings with
  | .error fault => ⟨skipped, .error (.rule fault)⟩
  | .ok rules =>
    let rules := rules.flatten
    ⟨skipped ++ mode.dropped index rules,
      (Ruleset.compile index (mode.keep index rules)).mapError .unknownClass⟩

/-- Loads a grammar. -/
def load (aliases : Aliases) (mode : Mode) (classText ruleText : List Char) : Loading :=
  let readings := ClassRecord.readLines classText
  let skipped := (mode.skipped readings).map Warning.skippedRecord
  match mode.read readings with
  | .error fault => ⟨skipped, .error (.record fault)⟩
  | .ok records =>
    match ClassIndex.build (CharClass.mergeByName records) with
    | .error fault => ⟨skipped, .error (.index fault)⟩
    | .ok index =>
      let rules := loadRules aliases mode index ruleText
      ⟨skipped ++ index.overlaps.map .overlap ++ rules.warnings, rules.result⟩

end GrammarText
end BoundaryRules
