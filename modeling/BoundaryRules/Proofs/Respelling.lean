import BoundaryRules.Proofs.Capitals
import BoundaryRules.Proofs.LineGrammar
import BoundaryRules.Proofs.RecordLines
import BoundaryRules.Proofs.Spelling

/-! Names in other spellings. What is read of a line does not depend on how its names are spelled,
apart from the name of the rule and the wording of faults. -/
namespace BoundaryRules

namespace Aliases

variable {definition respelled : String × List String}
  {definitions others : List (String × List String)}

/-- A definition of the same alias for the same classes, in other spellings. -/
structure Respells (definition respelled : String × List String) : Prop where
  name : normalizeName definition.1 = normalizeName respelled.1
  classes : List.Forall₂ (fun cls other => normalizeName cls = normalizeName other)
    definition.2 respelled.2

theorem Respells.map_classes (h : Respells definition respelled) :
    definition.2.map normalizeName = respelled.2.map normalizeName := by
  rw [← List.forall₂_eq_eq_eq, List.forall₂_map_left_iff, List.forall₂_map_right_iff]
  exact h.classes

theorem Respells.insert_eq (h : Respells definition respelled) (table : Aliases) :
    table.insert definition.1 definition.2 = table.insert respelled.1 respelled.2 := by
  have hput : ∀ entries, insert.put definition.1 definition.2 entries =
      insert.put respelled.1 respelled.2 entries := by
    intro entries
    induction entries with
    | nil => rw [insert.put, insert.put, h.name, h.map_classes]
    | cons entry entries ih => rw [insert.put, insert.put, h.name, h.map_classes, ih]
  rw [insert, insert, hput]

/-- Definitions in other spellings make the same table. -/
theorem ofList_respelled (h : List.Forall₂ Respells definitions others) :
    ofList definitions = ofList others := by
  have hfold : ∀ table : Aliases,
      definitions.foldl (fun table entry => table.insert entry.1 entry.2) table =
        others.foldl (fun table entry => table.insert entry.1 entry.2) table := by
    induction h with
    | nil => exact fun _ => rfl
    | cons hdefinition _ ih =>
      intro table
      rw [List.foldl_cons, List.foldl_cons, hdefinition.insert_eq, ih]
  exact hfold {}

theorem expand_normalizeName (table : Aliases) (name : String) :
    table.expand (normalizeName name) = table.expand name := by
  rw [expand, expand, get?, get?, normalizeName_normalizeName]

end Aliases

namespace Token

variable {written respelled : List Char}

/-- The token with its name normalized, if it is one. -/
def normalized : Token → Token
  | .name text => .name (normalizeName text)
  | token => token

/-- The text with names spelled differently, and all else as it was. -/
inductive Respells : List Char → List Char → Prop where
  | nil : Respells [] []
  | other {text respelled : List Char} {c : Char} (hc : ¬ IsNameChar c)
      (h : Respells text respelled) : Respells (c :: text) (c :: respelled)
  | name {text respelled : List Char} {name spelling : String} (hne : name ≠ "")
      (hchars : ∀ c ∈ name.toList, IsNameChar c) (hneSpelling : spelling ≠ "")
      (hspelling : ∀ c ∈ spelling.toList, IsNameChar c)
      (hsame : normalizeName name = normalizeName spelling)
      (hend : ∀ c ∈ text.head?, ¬ IsNameChar c) (h : Respells text respelled) :
      Respells (name.toList ++ text) (spelling.toList ++ respelled)

namespace Respells

theorem not_isNameChar_head? (h : Respells written respelled)
    (hend : ∀ c ∈ written.head?, ¬ IsNameChar c) : ∀ c ∈ respelled.head?, ¬ IsNameChar c := by
  cases h with
  | nil => exact hend
  | other hc _ => exact hend
  | @name text _ name _ hne hchars =>
    cases hname : name.toList with
    | nil => exact absurd (String.toList_eq_nil_iff.mp hname) hne
    | cons c front =>
      rw [hname] at hend hchars
      exact absurd (hchars c List.mem_cons_self) (hend c rfl)

/-- The tokens differ in the spelling of names only. -/
theorem map_normalized_scan (h : Respells written respelled) :
    (scan written).map normalized = (scan respelled).map normalized := by
  induction h with
  | nil => rfl
  | other hc _ ih =>
    rw [scan_cons_of_not_isNameChar hc, scan_cons_of_not_isNameChar hc, List.map_append,
      List.map_append, ih]
  | name hne hchars hneSpelling hspelling hsame hend h ih =>
    rw [scan_name_append hne hchars hend,
      scan_name_append hneSpelling hspelling (h.not_isNameChar_head? hend), List.map_cons,
      List.map_cons, normalized, normalized, hsame, ih]

theorem isBlank_eq (h : Respells written respelled) :
    Unicode.isBlank written = Unicode.isBlank respelled := by
  induction h with
  | nil => rfl
  | other hc _ ih =>
    rw [Unicode.isBlank, Unicode.isBlank, List.all_cons, List.all_cons]
    exact congrArg (_ && ·) ih
  | name hne hchars hneSpelling hspelling =>
    have hname : ∀ {name : String} (text : List Char), name ≠ "" →
        (∀ c ∈ name.toList, IsNameChar c) → Unicode.isBlank (name.toList ++ text) = false := by
      intro name text hne hchars
      obtain ⟨c, hc⟩ := List.exists_mem_of_ne_nil _ (mt String.toList_eq_nil_iff.mp hne)
      rw [Unicode.isBlank, List.all_eq_false]
      exact ⟨c, List.mem_append_left _ hc, Bool.eq_false_iff.mp (hchars c hc).1⟩
    rw [hname _ hne hchars, hname _ hneSpelling hspelling]

end Respells

end Token

namespace RuleLine

variable {aliases : Aliases} {elements : Pattern} {written respelled : List Char}

/-- The reason with names normalized. -/
def Reason.normalized : Reason → Reason
  | nameExpected found => nameExpected found.normalized
  | operatorExpected found => operatorExpected found.normalized
  | trailing found => trailing found.normalized
  | noClasses name => noClasses (normalizeName name)
  | classExpected found => classExpected found.normalized
  | separatorExpected found => separatorExpected found.normalized
  | reason => reason

/-- What was read, with the names that are left and those in the reason normalized. -/
def normalizedRead : Read → Read
  | .ok (pattern, tokens) => .ok (pattern, tokens.map Token.normalized)
  | .error reason => .error reason.normalized

/-- Tokens with normalized names are read as the tokens are. -/
theorem read_map_normalized (aliases : Aliases) (tokens : List Token) :
    (∀ elements, readPattern aliases elements (tokens.map Token.normalized) =
      normalizedRead (readPattern aliases elements tokens)) ∧
    (∀ elements choices, readChoice aliases elements choices (tokens.map Token.normalized) =
      normalizedRead (readChoice aliases elements choices tokens)) ∧
    ∀ elements choices, readSeparator aliases elements choices (tokens.map Token.normalized) =
      normalizedRead (readSeparator aliases elements choices tokens) := by
  induction tokens with
  | nil => exact ⟨fun _ => by simp [readPattern, normalizedRead], fun _ _ => rfl, fun _ _ => rfl⟩
  | cons token tokens ih =>
    obtain ⟨ihpattern, ihchoice, ihseparator⟩ := ih
    rw [List.map_cons]
    refine ⟨fun elements => ?_, fun elements choices => ?_, fun elements choices => ?_⟩
    · cases token with
      | name name =>
        simp only [Token.normalized, readPattern, Aliases.expand_normalizeName]
        split
        · rfl
        · exact ihpattern _
      | leftParen =>
        simp only [Token.normalized, readPattern]
        exact ihchoice _ _
      | _ => simp [Token.normalized, readPattern, normalizedRead]
    · cases token with
      | name name =>
        simp only [Token.normalized, readChoice, Aliases.expand_normalizeName]
        exact ihseparator _ _
      | rightParen =>
        simp only [Token.normalized, readChoice, normalizedRead]
        split <;> rfl
      | _ => rfl
    · cases token with
      | bar =>
        simp only [Token.normalized, readSeparator]
        exact ihchoice _ _
      | rightParen =>
        simp only [Token.normalized, readSeparator]
        exact ihpattern _
      | _ => rfl

theorem readPattern_map_normalized (tokens : List Token) :
    readPattern aliases elements (tokens.map Token.normalized) =
      normalizedRead (readPattern aliases elements tokens) :=
  (read_map_normalized aliases tokens).1 elements

/-- Behind its first token a line may be spelled in any way. -/
theorem ofTokens_map_normalized (aliases : Aliases) (first : Token) (tokens : List Token) :
    Sketch.ofTokens aliases (first :: tokens.map Token.normalized) =
      (Sketch.ofTokens aliases (first :: tokens)).mapError Reason.normalized := by
  cases first with
  | name name =>
    simp only [Sketch.ofTokens, ok_bind, readPattern_map_normalized]
    cases readPattern aliases [] tokens with
    | error reason => rfl
    | ok read =>
      obtain ⟨left, tokens⟩ := read
      simp only [normalizedRead, ok_bind]
      cases tokens with
      | nil => rfl
      | cons token tokens =>
        cases token with
        | operator action =>
          simp only [List.map_cons, Token.normalized, readPattern_map_normalized]
          cases readPattern aliases [] tokens with
          | error reason => rfl
          | ok read =>
            obtain ⟨right, tokens⟩ := read
            simp only [normalizedRead, ok_bind]
            cases tokens with
            | nil =>
              simp only [List.map_nil]
              split <;> rfl
            | cons token tokens => rfl
        | _ => rfl
  | _ => rfl

/-- A line with names spelled differently but for the name of the rule. -/
structure Respells (written respelled : List Char) : Prop where
  text : Token.Respells written respelled
  first : (Token.scan written).head? = (Token.scan respelled).head?

/-- Names may be spelled in any way, but for that of the rule. -/
theorem Respells.read_eq (h : Respells written respelled) (aliases : Aliases) :
    (read aliases written).mapError Reason.normalized =
      (read aliases respelled).mapError Reason.normalized := by
  have htokens : (Sketch.ofTokens aliases (Token.scan written)).mapError Reason.normalized =
      (Sketch.ofTokens aliases (Token.scan respelled)).mapError Reason.normalized := by
    have hmap := h.text.map_normalized_scan
    have hfirst := h.first
    revert hmap hfirst
    cases Token.scan written with
    | nil =>
      intro hmap _
      rw [List.map_nil, eq_comm, List.map_eq_nil_iff] at hmap
      rw [hmap]
    | cons first tokens =>
      intro hmap hfirst
      cases hrespelled : Token.scan respelled with
      | nil =>
        rw [hrespelled] at hfirst
        cases hfirst
      | cons other others =>
        rw [hrespelled] at hmap hfirst
        obtain rfl := Option.some.inj hfirst
        rw [← ofTokens_map_normalized, ← ofTokens_map_normalized, (List.cons.inj hmap).2]
  rw [read, read, mapError_bind, mapError_bind, htokens]

theorem Respells.isIgnorable_eq (h : Respells written respelled) :
    isIgnorable written = isIgnorable respelled := by
  have hhead : written.head? = respelled.head? := by
    obtain ⟨htext, hfirst⟩ := h
    cases htext with
    | nil => rfl
    | other hc _ => rfl
    | @name text respelled name spelling hne hchars hneSpelling hspelling hsame hend h =>
      rw [Token.scan_name_append hne hchars hend,
        Token.scan_name_append hneSpelling hspelling (h.not_isNameChar_head? hend),
        List.head?_cons, List.head?_cons] at hfirst
      obtain rfl := Token.name.inj (Option.some.inj hfirst)
      have hnil : name.toList ≠ [] := mt String.toList_eq_nil_iff.mp hne
      rw [List.head?_append_of_ne_nil _ hnil, List.head?_append_of_ne_nil _ hnil]
  rw [isIgnorable, isIgnorable, hhead, h.text.isBlank_eq]

end RuleLine

namespace ClassRecord

variable {written respelled : List Char}

/-- A line with the name of its class spelled differently. -/
inductive Respells : List Char → List Char → Prop where
  | same (line : List Char) : Respells line line
  | name {range gap rest name spelling : List Char} (hrange : ';' ∉ range)
      (hgap : ∀ c ∈ gap, Unicode.isWhiteSpace c = true) (hne : name ≠ [])
      (hchars : ∀ c ∈ name, isNameChar c = true) (hneSpelling : spelling ≠ [])
      (hspelling : ∀ c ∈ spelling, isNameChar c = true)
      (hsame : normalizeName (String.ofList name) = normalizeName (String.ofList spelling))
      (hend : ∀ c ∈ rest.head?, isNameChar c = false) :
      Respells (range ++ ';' :: (gap ++ (name ++ rest)))
        (range ++ ';' :: (gap ++ (spelling ++ rest)))

theorem Parts.toClass_eq {first : List Char} {last : Option (List Char)} {name spelling : List Char}
    (h : normalizeName (String.ofList name) = normalizeName (String.ofList spelling)) :
    toClass ⟨first, last, name⟩ = toClass ⟨first, last, spelling⟩ := by
  simp only [toClass, CharClass.named, h]

/-- The name of a record may be spelled in any way. -/
theorem Respells.read_eq (h : Respells written respelled) : read written = read respelled := by
  cases h with
  | same => rfl
  | @name range gap rest name spelling hrange hgap hne hchars hneSpelling hspelling hsame hend =>
    simp only [read, split?_append_semicolon hrange, splitName?_append hgap hne hchars hend,
      splitName?_append hgap hneSpelling hspelling hend]
    cases splitRange? range with
    | none => rfl
    | some ends =>
      obtain ⟨first, last⟩ := ends
      cases endsRecord rest with
      | false => rfl
      | true => exact Parts.toClass_eq hsame

theorem Respells.isIgnorable_eq (h : Respells written respelled) :
    isIgnorable written = isIgnorable respelled := by
  cases h with
  | same => rfl
  | @name range gap rest name spelling =>
    have hwhite : Unicode.isWhiteSpace ';' = false := by decide +kernel
    have hblank : ∀ more, Unicode.isBlank (range ++ ';' :: more) = false := by
      intro more
      rw [Unicode.isBlank, List.all_eq_false]
      exact ⟨';', List.mem_append_right _ List.mem_cons_self, Bool.eq_false_iff.mp hwhite⟩
    have hhead : ∀ more, (range ++ ';' :: more).head? = (range ++ [';']).head? := by
      intro more
      cases range <;> rfl
    rw [isIgnorable, isIgnorable, hblank, hblank, hhead, hhead (gap ++ (spelling ++ rest))]

end ClassRecord
end BoundaryRules
