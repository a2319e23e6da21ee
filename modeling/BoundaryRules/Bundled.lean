import BoundaryRules.Bundled.Classes
import BoundaryRules.RuleLine
import BoundaryRules.Ruleset

/-!
The bundled grammar: the default word boundaries of Unicode, rules WB1 to WB14 over the bundled
classes. Its parts fit together (`load?_isSome`), so there always is a ruleset.
-/
namespace BoundaryRules.Bundled

def aliases : Aliases := Aliases.ofList [
  ("AHLetter", ["ALetter", "Hebrew_Letter"]),
  ("MidNumLetQ", ["MidNumLet", "Single_Quote"]),
  ("X", ["Any"])]

/-- The rule lines in the order of definition. -/
def ruleLines : List String := [
  -- A word ends at the start and at the end of the text.
  "WB1 sot ÷",
  "WB2 ÷ eot",
  -- CR LF stays together; otherwise a word ends around line breaks.
  "WB3 CR × LF",
  "WB3a (Newline | CR | LF) ÷",
  "WB3b ÷ (Newline | CR | LF)",
  -- Format and Extend characters belong to the character before them.
  "WB4 X (Extend | Format) → X",
  -- Letters.
  "WB5 AHLetter × AHLetter",
  -- Letters across certain punctuation.
  "WB6 AHLetter × (MidLetter | MidNumLetQ) AHLetter",
  "WB7 AHLetter (MidLetter | MidNumLetQ) × AHLetter",
  "WB7a Hebrew_Letter × Single_Quote",
  "WB7b Hebrew_Letter × Double_Quote Hebrew_Letter",
  "WB7c Hebrew_Letter Double_Quote × Hebrew_Letter",
  -- Digits, also next to letters.
  "WB8 Numeric × Numeric",
  "WB9 AHLetter × Numeric",
  "WB10 Numeric × AHLetter",
  -- Numbers such as 3.2 and 3,456.789.
  "WB11 Numeric (MidNum | MidNumLetQ) × Numeric",
  "WB12 Numeric × (MidNum | MidNumLetQ) Numeric",
  -- Katakana.
  "WB13 Katakana × Katakana",
  -- Connectors such as the underscore.
  "WB13a (AHLetter | Numeric | Katakana | ExtendNumLet) × ExtendNumLet",
  "WB13b ExtendNumLet × (AHLetter | Numeric | Katakana)",
  -- Regional indicators.
  "WB13c Regional_Indicator × Regional_Indicator",
  -- A word ends everywhere else.
  "WB14 Any ÷ Any"]

/-- Reads the rule lines. -/
def readRules : Except RuleLine.Reason (List Rule) :=
  (ruleLines.mapM fun line => RuleLine.read aliases line.toList).map List.flatten

/-- The name that the grammar goes by. -/
def name : String := "uax29-words"

/-- Builds the grammar from its classes and rule lines. -/
def load? : Option Ruleset := do
  let index ← (ClassIndex.build wordBreakClasses).toOption
  let rules ← readRules.toOption
  (Ruleset.compile index rules).toOption

theorem load?_isSome : load?.isSome = true := by decide +kernel

/-- The word boundary rules of Unicode over the bundled classes. -/
def ruleset : Ruleset := load?.get load?_isSome

private theorem eq_ok_of_toOption {ε α : Type} {x : Except ε α} {a : α}
    (h : x.toOption = some a) : x = .ok a := by
  cases x with
  | error => contradiction
  | ok => exact congrArg _ (Option.some.inj h)

theorem load?_eq_some : load? = some ruleset := (Option.some_get load?_isSome).symm

theorem exists_parts :
    ∃ index rules, ClassIndex.build wordBreakClasses = .ok index ∧ readRules = .ok rules ∧
      Ruleset.compile index rules = .ok ruleset := by
  have h := load?_eq_some
  unfold load? at h
  obtain ⟨index, hindex, h⟩ := Option.bind_eq_some_iff.mp h
  obtain ⟨rules, hrules, hruleset⟩ := Option.bind_eq_some_iff.mp h
  exact ⟨index, rules, eq_ok_of_toOption hindex, eq_ok_of_toOption hrules,
    eq_ok_of_toOption hruleset⟩

end BoundaryRules.Bundled
