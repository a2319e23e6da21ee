import BoundaryRules.GrammarText
import BoundaryRules.Proofs.Respelling

/-! Grammars in other spellings. A load comes to the same ruleset, or to a fault of the same kind at
the same line, however the names in the grammar are spelled. -/
namespace BoundaryRules

section Readings

variable {ε ε' α β : Type} {Goes : List Char → List Char → Prop} {written respelled : List Char}
  {f g : Nat × List Char → α}

/-- What is read of two texts that go together line by line. -/
theorem map_definitionLines_eq (h : List.Forall₂ Goes (lines written) (lines respelled))
    (hignorable : ∀ line other, Goes line other → isIgnorable line = isIgnorable other)
    (hsame : ∀ n line other, Goes line other → f (n, line) = g (n, other)) :
    (definitionLines written).map f = (definitionLines respelled).map g := by
  unfold definitionLines
  revert h
  generalize lines written = written, lines respelled = respelled, 1 = start
  intro h
  induction h generalizing start with
  | nil => rfl
  | @cons line other written respelled hline _ ih =>
    simp only [List.zipIdx_cons, List.filter_cons, hignorable line other hline]
    split
    · simp only [List.map_cons, hsame start line other hline, ih]
    · exact ih (start + 1)

/-- Faults may be changed before or after reading. -/
theorem Mode.mapError_read (f : ε → ε') (mode : Mode) (readings : List (Nat × Except ε β)) :
    (mode.read readings).mapError f =
      mode.read (readings.map fun (n, reading) => (n, reading.mapError f)) := by
  cases mode with
  | strict =>
    simp only [read]
    induction readings with
    | nil => rfl
    | cons reading readings ih =>
      simp only [List.mapM_cons, List.map_cons, mapError_bind, ih]
      rfl
  | lenient =>
    have hoption : ∀ reading : Except ε β, (reading.mapError f).toOption = reading.toOption := by
      rintro (fault | good) <;> rfl
    simp only [read, List.filterMap_map, Function.comp_def, hoption]
    rfl

/-- The fault without the text of its line, and with its reason reworded. -/
def LineFault.outline (reword : ε → ε) (fault : LineFault ε) : LineFault ε :=
  ⟨"", fault.number, reword fault.reason⟩

theorem LineFault.mapError_outline (reword : ε → ε) (line : String) (number : Option Nat)
    (reading : Except ε β) :
    (reading.mapError fun reason => LineFault.mk line number reason).mapError (outline reword) =
      (reading.mapError reword).mapError fun reason => ⟨"", number, reason⟩ := by
  cases reading <;> rfl

end Readings

/-- What kind of fault it is and where, whatever the spelling of the names around it. -/
def LoadFault.outline : LoadFault → LoadFault
  | record fault => .record (fault.outline id)
  | index fault => .index fault
  | rule fault => .rule (fault.outline RuleLine.Reason.normalized)
  | unknownClass unknown => .unknownClass unknown

namespace ClassRecord

variable {written respelled : List Char}

theorem readLines_respelled (h : List.Forall₂ Respells (lines written) (lines respelled)) :
    ((readLines written).map fun (n, reading) => (n, reading.mapError (LineFault.outline id))) =
      (readLines respelled).map fun (n, reading) =>
        (n, reading.mapError (LineFault.outline id)) := by
  rw [readLines, readLines, List.map_map, List.map_map]
  refine map_definitionLines_eq h (fun _ _ hline => hline.isIgnorable_eq) ?_
  intro n line other hline
  simp only [Function.comp_apply, readLine, LineFault.mapError_outline, hline.read_eq]

end ClassRecord

namespace RuleLine

variable {written respelled : List Char}

theorem readLines_respelled (aliases : Aliases)
    (h : List.Forall₂ Respells (lines written) (lines respelled)) :
    ((readLines aliases written).map fun (n, reading) =>
        (n, reading.mapError (LineFault.outline Reason.normalized))) =
      (readLines aliases respelled).map fun (n, reading) =>
        (n, reading.mapError (LineFault.outline Reason.normalized)) := by
  rw [readLines, readLines, List.map_map, List.map_map]
  refine map_definitionLines_eq h (fun _ _ hline => hline.isIgnorable_eq) ?_
  intro n line other hline
  simp only [Function.comp_apply, readLine, LineFault.mapError_outline, hline.read_eq]

end RuleLine

namespace GrammarText

variable {aliases : Aliases} {mode : Mode} {index : ClassIndex}
  {definitions otherDefinitions : List (String × List String)}
  {classText otherClassText ruleText otherRuleText : List Char}

theorem mapError_outline_unknownClass {α : Type} (compiled : Except UnknownClass α) :
    (compiled.mapError LoadFault.unknownClass).mapError LoadFault.outline =
      compiled.mapError .unknownClass := by
  cases compiled <;> rfl

/-- The outcome of loading rules depends on the outlines of their faults only. -/
theorem loadRules_outline :
    (loadRules aliases mode index ruleText).result.mapError LoadFault.outline =
      (mode.read ((RuleLine.readLines aliases ruleText).map fun (n, reading) =>
        (n, reading.mapError (LineFault.outline RuleLine.Reason.normalized)))).mapError .rule >>=
        fun rules => (Ruleset.compile index (mode.keep index rules.flatten)).mapError
          .unknownClass := by
  rw [← Mode.mapError_read, loadRules]
  cases mode.read (RuleLine.readLines aliases ruleText) with
  | error fault => rfl
  | ok rules => exact mapError_outline_unknownClass _

theorem load_outline :
    (load aliases mode classText ruleText).result.mapError LoadFault.outline =
      (mode.read ((ClassRecord.readLines classText).map fun (n, reading) =>
        (n, reading.mapError (LineFault.outline id)))).mapError .record >>= fun records =>
        (ClassIndex.build (CharClass.mergeByName records)).mapError .index >>= fun index =>
          (loadRules aliases mode index ruleText).result.mapError LoadFault.outline := by
  rw [← Mode.mapError_read, load]
  cases mode.read (ClassRecord.readLines classText) with
  | error fault => rfl
  | ok records =>
    simp only [Except.mapError, ok_bind]
    cases ClassIndex.build (CharClass.mergeByName records) with
    | error fault => rfl
    | ok index => rfl

/-- A load does not depend on the spelling of names: aliases and their classes, the classes of
records, and all names in rule lines but those of the rules. -/
theorem load_respelled (mode : Mode)
    (hdefinitions : List.Forall₂ Aliases.Respells definitions otherDefinitions)
    (hclasses : List.Forall₂ ClassRecord.Respells (lines classText) (lines otherClassText))
    (hrules : List.Forall₂ RuleLine.Respells (lines ruleText) (lines otherRuleText)) :
    (load (Aliases.ofList definitions) mode classText ruleText).result.mapError LoadFault.outline =
      (load (Aliases.ofList otherDefinitions) mode otherClassText otherRuleText).result.mapError
        LoadFault.outline := by
  simp only [load_outline, loadRules_outline, Aliases.ofList_respelled hdefinitions,
    ClassRecord.readLines_respelled hclasses, RuleLine.readLines_respelled _ hrules]

end GrammarText

/-! A grammar of one class and one alias. The small sharp s has two letters for its capital form. -/
namespace StreetNames

def definitions (street member : String) : List (String × List String) := [(street, [member])]

def classText (name : String) : List Char :=
  "0041..005A ".toList ++ ';' :: ([' '] ++ (name.toList ++ " # letters".toList))

def ruleText (street name : String) : List Char :=
  "R".toList ++ ' ' :: (street.toList ++ ' ' :: '×' :: ' ' :: (name.toList ++ [' ']))

/-- A name in front of a space in another spelling. -/
theorem respells_name {text respelled : List Char} (name spelling : String)
    (hvalid : name ≠ "" ∧ name.toList.all (Token.IsNameChar ·) = true ∧
      spelling ≠ "" ∧ spelling.toList.all (Token.IsNameChar ·) = true ∧
      normalizeName name = normalizeName spelling)
    (h : Token.Respells text respelled) :
    Token.Respells (name.toList ++ ' ' :: text) (spelling.toList ++ ' ' :: respelled) := by
  have hchars (name : String) (h : name.toList.all (Token.IsNameChar ·) = true) :
      ∀ c ∈ name.toList, Token.IsNameChar c :=
    fun c hc => of_decide_eq_true (List.all_eq_true.mp h c hc)
  have hspace : ¬ Token.IsNameChar ' ' := by decide
  obtain ⟨hne, hname, hneSpelling, hspelling, hsame⟩ := hvalid
  refine .name hne (hchars name hname) hneSpelling (hchars spelling hspelling) hsame ?_
    (.other hspace h)
  rintro _ ⟨⟩
  exact hspace

theorem load_of_street_name :
    List.Forall₂ Aliases.Respells (definitions "Straße" "letter") (definitions "strasse" "LETTER") ∧
      List.Forall₂ ClassRecord.Respells (lines (classText "Letter")) (lines (classText "lEttEr")) ∧
      List.Forall₂ RuleLine.Respells (lines (ruleText "Straße" "Letter"))
        (lines (ruleText "STRASSE" "letter")) ∧
      ∃ ruleset,
        (GrammarText.load (Aliases.ofList (definitions "Straße" "letter")) .strict
          (classText "Letter") (ruleText "Straße" "Letter")).result = .ok ruleset ∧
        (GrammarText.load (Aliases.ofList (definitions "strasse" "LETTER")) .strict
          (classText "lEttEr") (ruleText "STRASSE" "letter")).result = .ok ruleset := by
  have hdefinitions : List.Forall₂ Aliases.Respells (definitions "Straße" "letter")
      (definitions "strasse" "LETTER") :=
    .cons ⟨by decide +kernel, .cons (by decide +kernel) .nil⟩ .nil
  have hclasses : List.Forall₂ ClassRecord.Respells (lines (classText "Letter"))
      (lines (classText "lEttEr")) := by
    have hwritten : lines (classText "Letter") = [classText "Letter"] := by decide +kernel
    have hrespelled : lines (classText "lEttEr") = [classText "lEttEr"] := by decide +kernel
    rw [hwritten, hrespelled]
    refine .cons (.name ?_ ?_ ?_ (List.all_eq_true.mp ?_) ?_ (List.all_eq_true.mp ?_) ?_ ?_) .nil
    · decide
    · exact List.forall_mem_singleton.mpr rfl
    · decide
    · decide +kernel
    · decide
    · decide +kernel
    · decide +kernel
    · rintro _ ⟨⟩
      rfl
  have hrules : List.Forall₂ RuleLine.Respells (lines (ruleText "Straße" "Letter"))
      (lines (ruleText "STRASSE" "letter")) := by
    have hwritten : lines (ruleText "Straße" "Letter") = [ruleText "Straße" "Letter"] := by
      decide +kernel
    have hrespelled : lines (ruleText "STRASSE" "letter") = [ruleText "STRASSE" "letter"] := by
      decide +kernel
    rw [hwritten, hrespelled]
    have hsign : ¬ Token.IsNameChar '×' := by decide +kernel
    have hspace : ¬ Token.IsNameChar ' ' := by decide
    refine .cons ⟨respells_name "R" "R" (by decide +kernel) ?_, by decide +kernel⟩ .nil
    refine respells_name "Straße" "STRASSE" (by decide +kernel) (.other hsign (.other hspace ?_))
    exact respells_name "Letter" "letter" (by decide +kernel) .nil
  have hload := GrammarText.load_respelled .strict hdefinitions hclasses hrules
  have hok : (GrammarText.load (Aliases.ofList (definitions "Straße" "letter")) .strict
      (classText "Letter") (ruleText "Straße" "Letter")).result.isOk = true := by decide +kernel
  cases hwritten : (GrammarText.load (Aliases.ofList (definitions "Straße" "letter")) .strict
      (classText "Letter") (ruleText "Straße" "Letter")).result with
  | error fault =>
    rw [hwritten] at hok
    cases hok
  | ok ruleset =>
    rw [hwritten] at hload
    exact ⟨hdefinitions, hclasses, hrules, ruleset, rfl, mapError_eq_ok_iff.mp hload.symm⟩

end StreetNames
end BoundaryRules
