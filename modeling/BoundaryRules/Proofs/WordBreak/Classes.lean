import BoundaryRules.Bundled
import BoundaryRules.Proofs.Buckets
import BoundaryRules.Proofs.Resolution
import Mathlib.Data.List.Basic

/-! The word break classes of characters, read from the table of ranges. The index of the bundled
grammar gives each character the identifier of its class. -/
namespace BoundaryRules

/-- The classes of the table, and that of all other characters. -/
inductive WordBreak where
  | other
  | doubleQuote
  | singleQuote
  | hebrewLetter
  | cr
  | lf
  | newline
  | extend
  | regionalIndicator
  | format
  | katakana
  | aLetter
  | midLetter
  | midNum
  | midNumLet
  | numeric
  | extendNumLet
deriving DecidableEq, Repr

namespace WordBreak

def ofName : String → WordBreak
  | "DOUBLE_QUOTE" => doubleQuote
  | "SINGLE_QUOTE" => singleQuote
  | "HEBREW_LETTER" => hebrewLetter
  | "CR" => cr
  | "LF" => lf
  | "NEWLINE" => newline
  | "EXTEND" => extend
  | "REGIONAL_INDICATOR" => regionalIndicator
  | "FORMAT" => format
  | "KATAKANA" => katakana
  | "ALETTER" => aLetter
  | "MIDLETTER" => midLetter
  | "MIDNUM" => midNum
  | "MIDNUMLET" => midNumLet
  | "NUMERIC" => numeric
  | "EXTENDNUMLET" => extendNumLet
  | _ => other

/-- The class of the table that a character is in. -/
def ofChar (c : Char) : WordBreak :=
  (Bundled.wordBreakClasses.find? (·.contains c.toNat)).elim other fun cls => ofName cls.name

/-- The identifier in the index of the bundled grammar. -/
def classId (w : WordBreak) : ClassId := ⟨3 + w.ctorIdx⟩

theorem classId_injective : Function.Injective classId := by
  intro v w
  cases v <;> cases w <;> decide

/-- The index of the bundled grammar. -/
def index : ClassIndex := .ofCollected (ClassIndex.builtIns ++ Bundled.wordBreakClasses)

/-- The records of the table have different names, none of them reserved. -/
theorem foldlM_collect_eq :
    Bundled.wordBreakClasses.foldlM ClassIndex.collect ClassIndex.builtIns =
      .ok (ClassIndex.builtIns ++ Bundled.wordBreakClasses) := by
  decide +kernel

theorem build_eq : ClassIndex.build Bundled.wordBreakClasses = .ok index := by
  rw [ClassIndex.build, foldlM_collect_eq]
  rfl

theorem classes_bundled : Bundled.ruleset.classes = index := by
  obtain ⟨built, rules, hbuilt, -, hruleset⟩ := Bundled.exists_parts
  rw [Ruleset.classes_of_compile hruleset]
  exact Except.ok.inj (hbuilt.symm.trans build_eq)

theorem separated_index : index.Separated := by
  unfold ClassIndex.Separated
  decide +kernel

/-- The names stand in the table in the order of the identifiers. -/
theorem classId_ofName :
    ∀ entry ∈ Bundled.wordBreakClasses.zipIdx, (ofName entry.1.name).classId = ⟨4 + entry.2⟩ := by
  decide +kernel

/-- Bisection over all ranges finds the class that a search of the table finds. -/
theorem classOf_eq (c : Char) : Bundled.ruleset.classes.classOf c = (ofChar c).classId := by
  rw [classes_bundled, ClassIndex.classOf, ofChar]
  cases hfind : Bundled.wordBreakClasses.find? (·.contains c.toNat) with
  | some cls =>
    have hin := List.find?_some (p := fun cls : CharClass => cls.contains c.toNat) hfind
    obtain ⟨range, hrange, hcontains⟩ := List.any_eq_true.mp (show cls.ranges.any _ = true from hin)
    obtain ⟨k, hk⟩ := List.getElem?_of_mem (List.mem_of_find?_eq_some hfind)
    have hcls : (ClassIndex.builtIns ++ Bundled.wordBreakClasses)[4 + k]? = some cls := by
      rw [List.getElem?_append_right (Nat.le_add_right 4 k)]
      simpa [ClassIndex.builtIns, builtInNames] using hk
    have hmem : ⟨range, ⟨4 + k⟩⟩ ∈ index.intervals :=
      ClassIndex.mem_intervals_ofCollected.mpr (ClassIndex.mem_intervalsOf.mpr ⟨cls, hcls, hrange⟩)
    rw [ClassIndex.resolve_of_mem separated_index hmem hcontains, Option.elim_some,
      classId_ofName (cls, k) (List.mk_mem_zipIdx_iff_getElem?.mpr hk)]
  | none =>
    apply ClassIndex.resolve_of_not_mem separated_index
    intro interval hmem
    obtain ⟨cls, hcls, hrange⟩ :=
      ClassIndex.mem_intervalsOf.mp (ClassIndex.mem_intervals_ofCollected.mp hmem)
    rcases List.mem_append.mp (List.mem_of_getElem? hcls) with hbuiltIn | htable
    · rw [ClassIndex.ranges_of_mem_builtIns hbuiltIn] at hrange
      exact absurd hrange List.not_mem_nil
    · have hout := List.find?_eq_none.mp hfind cls htable
      rw [CharClass.contains, List.any_eq_true] at hout
      exact Bool.eq_false_iff.mpr fun hcontains => hout ⟨_, hrange, hcontains⟩

end WordBreak
end BoundaryRules
