import BoundaryRules.Proofs.Expansion
import BoundaryRules.Proofs.RecordFormat
import BoundaryRules.Proofs.TokenText

/-! Class names in the two text formats. Records have names that rule lines cannot have: in a rule
line a reserved character is a token of its own, so no rule is about a class with such a name. -/
namespace BoundaryRules

namespace Token

variable {c d : Char} {name : String} {text : List Char}

/-- What can be decided of all characters of a text holds of each of them. -/
theorem forall_mem_of_all {p : Char → Prop} [DecidablePred p] (h : text.all (p ·) = true) :
    ∀ c ∈ text, p c :=
  fun c hc => of_decide_eq_true (List.all_eq_true.mp h c hc)

theorem upperForm_of_mem_reserved : ∀ c ∈ reserved, Unicode.upperForm c = [c] :=
  forall_mem_of_all (by decide +kernel)

theorem not_mem_capital_of_mem_reserved : ∀ c ∈ reserved, c.toNat ∉ Unicode.capital :=
  forall_mem_of_all (by decide +kernel)

/-- A reserved character is the capital form of nothing but itself. -/
theorem mem_upperForm_iff (hc : c ∈ reserved) : c ∈ Unicode.upperForm d ↔ c = d := by
  constructor
  · intro h
    rcases Unicode.capitalForm_upperForm d with hself | ⟨-, -, hcapital⟩
    · simpa [hself] using h
    · exact absurd (hcapital c h) (not_mem_capital_of_mem_reserved c hc)
  · rintro rfl
    simp [upperForm_of_mem_reserved c hc]

theorem mem_toUpper_iff (hc : c ∈ reserved) : c ∈ Unicode.toUpper text ↔ c ∈ text := by
  simp [Unicode.toUpper, mem_upperForm_iff hc]

/-- Normalizing a name puts no reserved character into it. -/
theorem not_mem_reserved_of_normalizeName (h : ∀ c ∈ name.toList, c ∉ reserved) :
    ∀ c ∈ (normalizeName name).toList, c ∉ reserved := by
  intro c hc hreserved
  rw [normalizeName, String.toList_ofList, mem_toUpper_iff hreserved] at hc
  have hsublist : (Unicode.trim name.toList).Sublist name.toList :=
    (List.rdropWhile_prefix _ _).sublist.trans (List.dropWhile_sublist _)
  exact h c (hsublist.subset hc) hreserved

end Token

namespace RuleLine

variable {written : Written} {choice : List String × List String} {rule : Rule}
  {rules : List Rule} {name cls : String} {line : List Char}

/-- The line `R N × N` of a name. -/
def selfLine (name : String) : List Char := ("R " ++ name ++ " × " ++ name).toList

/-- The line of the name is read as the one rule that it says. -/
def NamesClass (name : String) : Prop :=
  ∃ rule, readLine {} none (selfLine name) = .ok [rule] ∧
    rule.left = [name] ∧ rule.right = [name] ∧ rule.target = name

/-- Some line has a rule about the class of the name. -/
def ReachesClass (name : String) : Prop :=
  ∃ line rules, readLine {} none line = .ok rules ∧ ∃ rule ∈ rules, name ∈ rule.classNames

theorem Written.Yields.mem_choice (h : written.Yields choice rule) (hcls : cls ∈ rule.classNames) :
    cls = "ANY" ∨ cls ∈ choice.1 ∨ cls ∈ choice.2 := by
  by_cases habsorb : written.action = .absorb
  · obtain ⟨state, hleft, hstate, hright⟩ := h.absorb habsorb
    rw [Rule.classNames, hstate] at hcls
    rw [hleft, hright]
    simp only [List.mem_append, List.mem_cons, List.not_mem_nil, or_false] at hcls ⊢
    tauto
  · obtain ⟨hleft, hright, htarget⟩ := h.contexts habsorb
    have hmem : cls ∈ rule.left ∨ cls ∈ rule.right := by
      simp only [Rule.classNames, List.mem_append, List.mem_singleton] at hcls
      rcases hcls with hcls | rfl
      · exact hcls
      · exact .inr (List.mem_of_head? htarget)
    rw [hleft, hright] at hmem
    rcases hmem with hmem | hmem <;> split at hmem
    · exact .inl (List.mem_singleton.mp hmem)
    · exact .inr (.inl hmem)
    · exact .inl (List.mem_singleton.mp hmem)
    · exact .inr (.inr hmem)

theorem Element.name_mem_tokens {element : Element} (h : name ∈ element.names) :
    .name name ∈ element.tokens := by
  cases element with
  | single first => simpa [names, tokens] using h
  | group first more => simpa [names, tokens, moreTokens] using h

theorem Written.name_mem_tokens {element : Element}
    (helement : element ∈ written.left ++ written.right) (h : name ∈ element.names) :
    .name name ∈ written.tokens := by
  have hmem := Element.name_mem_tokens h
  rw [List.mem_append] at helement
  simp only [tokens, List.mem_append, List.mem_cons, List.mem_flatMap]
  rcases helement with hleft | hright
  · exact .inl (.inr ⟨element, hleft, hmem⟩)
  · exact .inr (.inr ⟨element, hright, hmem⟩)

/-- A class in a choice is a name of an element, normalized. -/
theorem exists_name_of_mem_choice {elements : List Element} {chosen : List String}
    (h : chosen ∈ choices (elements.map (Element.classes {}))) (hcls : cls ∈ chosen) :
    ∃ element ∈ elements, ∃ name ∈ element.names, cls = normalizeName name := by
  obtain ⟨classes, hclasses, hmem⟩ := exists_group_of_mem_choice h hcls
  obtain ⟨element, helement, rfl⟩ := List.mem_map.mp hclasses
  obtain ⟨name, hname, hexpand⟩ := List.mem_flatMap.mp hmem
  exact ⟨element, helement, name, hname, List.mem_singleton.mp hexpand⟩

/-- No rule of a line is about a class with a reserved character in its name. -/
theorem not_mem_reserved_of_reachesClass (h : ReachesClass cls) :
    ∀ c ∈ cls.toList, c ∉ Token.reserved := by
  obtain ⟨line, rules, hread, rule, hrule, hmem⟩ := h
  obtain ⟨haccepted, hyields⟩ := readLine_iff [] none line (List.forall_mem_nil _)
  obtain ⟨written, hspells, -⟩ := haccepted.mp ⟨rules, hread⟩
  obtain ⟨choice, hchoice, hyield⟩ :=
    exists_mem_of_forall₂ (hyields rules hread written hspells) hrule
  obtain ⟨hleft, hright⟩ := Written.mem_choices_iff.mp hchoice
  have hnames : ∀ element ∈ written.left ++ written.right, ∀ name ∈ element.names,
      ∀ c ∈ (normalizeName name).toList, c ∉ Token.reserved := by
    intro element helement name hname
    have hproper := hspells.isProperName (Written.name_mem_tokens helement hname)
    exact Token.not_mem_reserved_of_normalizeName fun c hc => (hproper.2 c hc).2
  rcases hyield.mem_choice hmem with rfl | hcls | hcls
  · exact Token.forall_mem_of_all (by decide)
  · obtain ⟨element, helement, name, hname, rfl⟩ := exists_name_of_mem_choice hleft hcls
    exact hnames element (List.mem_append_left _ helement) name hname
  · obtain ⟨element, helement, name, hname, rfl⟩ := exists_name_of_mem_choice hright hcls
    exact hnames element (List.mem_append_right _ helement) name hname

/-- The parts of the line of a name. -/
def selfWritten (name : String) : Written := ⟨"R", [.single name], .join, [.single name]⟩

theorem spells_selfLine (h : Token.IsProperName name) :
    Token.Spells (selfWritten name).tokens (selfLine name) := by
  have hnames : ∀ other, .name other ∈ (selfWritten name).tokens → Token.IsProperName other := by
    intro other hother
    have hor : other = "R" ∨ other = name := by
      simpa [selfWritten, Written.tokens, Element.tokens] using hother
    rcases hor with rfl | rfl
    · exact ⟨by decide, Token.forall_mem_of_all (by decide)⟩
    · exact h
  have htext : [' '].intercalate ((selfWritten name).tokens.map (·.text.toList)) =
      selfLine name := by
    simp [selfWritten, selfLine, Written.tokens, Element.tokens, Token.text, Action.symbol,
      List.intercalate, List.intersperse]
  rw [← htext]
  exact Token.Spells.intercalate hnames

theorem namesClass_of_isProperName (h : Token.IsProperName name)
    (hnormal : normalizeName name = name) : NamesClass name := by
  have hclasses : Element.classes {} (.single name) = [name] := by
    simp [Element.classes, Element.names, Aliases.expand, Aliases.get?, hnormal]
  have hchoices : (selfWritten name).choices {} = [([name], [name])] := by
    simp [Written.choices, selfWritten, hclasses, choices]
  have haction : (selfWritten name).action ≠ .absorb := by simp [selfWritten]
  have hsound : (selfWritten name).Sound {} := by
    refine ⟨fun habsorb => absurd habsorb haction, fun element helement => ?_⟩
    obtain rfl : element = .single name := by simpa [selfWritten] using helement
    simpa [hclasses] using Ne.symm h.1
  obtain ⟨haccepted, hyields⟩ := readLine_iff [] none (selfLine name) (List.forall_mem_nil _)
  obtain ⟨rules, hread⟩ := haccepted.mpr ⟨_, spells_selfLine h, hsound⟩
  have hrules : List.Forall₂ (selfWritten name).Yields [([name], [name])] rules := by
    rw [← hchoices]
    exact hyields rules hread _ (spells_selfLine h)
  cases hrules with
  | cons hyield hnil =>
    cases hnil
    obtain ⟨hleft, hright, htarget⟩ := hyield.contexts haction
    simp only [List.cons_ne_nil, if_false] at hleft hright
    rw [hright, List.head?_cons, Option.some.injEq] at htarget
    exact ⟨_, hread, hleft, hright, htarget.symm⟩

theorem NamesClass.reachesClass (h : NamesClass name) : ReachesClass name := by
  obtain ⟨rule, hread, hleft, -, -⟩ := h
  have hmem : name ∈ rule.classNames := by simp [Rule.classNames, hleft]
  exact ⟨selfLine name, [rule], hread, rule, List.mem_singleton_self rule, hmem⟩

end RuleLine

namespace ClassRecord

variable {number : Option Nat} {line name : List Char} {parts : Parts} {cls : CharClass}

theorem IsName.isWhiteSpace (h : IsName name) : ∀ c ∈ name, Unicode.isWhiteSpace c = false := by
  intro c hc
  have hchar := h.2 c hc
  simp only [isNameChar, Bool.and_eq_true, Bool.not_eq_true'] at hchar
  exact hchar.1.1

theorem IsName.normalizeName_eq (h : IsName name) :
    normalizeName (String.ofList name) = String.ofList (Unicode.toUpper name) := by
  have htrimmed : Unicode.Trimmed name :=
    ⟨fun c hc => h.isWhiteSpace c (List.mem_of_head? hc),
      fun c hc => h.isWhiteSpace c (List.mem_of_getLast? hc)⟩
  rw [normalizeName, String.toList_ofList, Unicode.trim_of_trimmed htrimmed]

/-- In capitals, the name of a record is a name of rule lines just if it has no reserved
characters. -/
theorem IsName.isProperName_iff (h : IsName name) :
    Token.IsProperName (normalizeName (String.ofList name)) ↔ ∀ c ∈ name, c ∉ Token.reserved := by
  rw [h.normalizeName_eq, Token.IsProperName, String.toList_ofList]
  constructor
  · intro hproper c hc hreserved
    exact (hproper.2 c ((Token.mem_toUpper_iff hreserved).mpr hc)).2 hreserved
  · intro hfree
    obtain ⟨c, more, rfl⟩ := List.exists_cons_of_ne_nil h.1
    refine ⟨?_, fun d hd => ⟨?_, fun hreserved => ?_⟩⟩
    · simp [Unicode.toUpper, Unicode.upperForm_ne_nil]
    · obtain ⟨e, he, hform⟩ := List.mem_flatMap.mp hd
      exact Unicode.isWhiteSpace_of_mem_upperForm hform (h.isWhiteSpace e he)
    · exact hfree d ((Token.mem_toUpper_iff hreserved).mp hd) hreserved

theorem Spells.isName (h : Spells line parts) : IsName parts.name := by
  obtain ⟨-, hname⟩ := h
  cases hname with
  | bare _ hname _ => exact hname
  | commented _ hname _ _ => exact hname

/-- Exactly the classes without reserved characters in their names are named by the line `R N × N`,
and no rule line is about any of the others. -/
theorem namesClass_iff (h : readLine number line = .ok cls) :
    (RuleLine.NamesClass cls.name ↔ RuleLine.ReachesClass cls.name) ∧
      ∃ parts, Spells line parts ∧ cls.name = normalizeName (String.ofList parts.name) ∧
        (RuleLine.NamesClass cls.name ↔ ∀ c ∈ parts.name, c ∉ Token.reserved) := by
  obtain @⟨parts, hspells, hle, hupper⟩ := ((readLine_iff_defines number line).1 cls).mp h
  have hnamed (hfree : ∀ c ∈ parts.name, c ∉ Token.reserved) :
      RuleLine.NamesClass (normalizeName (String.ofList parts.name)) :=
    RuleLine.namesClass_of_isProperName (hspells.isName.isProperName_iff.mpr hfree)
      (normalizeName_normalizeName _)
  have hfree (hreached : RuleLine.ReachesClass (normalizeName (String.ofList parts.name))) :
      ∀ c ∈ parts.name, c ∉ Token.reserved := by
    intro c hc hreserved
    refine RuleLine.not_mem_reserved_of_reachesClass hreached c ?_ hreserved
    rwa [hspells.isName.normalizeName_eq, String.toList_ofList, Token.mem_toUpper_iff hreserved]
  have hreached (hself : RuleLine.NamesClass (normalizeName (String.ofList parts.name))) :=
    hself.reachesClass
  exact ⟨⟨hreached, fun h => hnamed (hfree h)⟩, parts, hspells, rfl, fun h => hfree (hreached h),
    hnamed⟩

end ClassRecord

/-! Two records, the second of which has a reserved character in its name. -/
namespace Letters

def plain : List Char := "0061..007A ; Straße # a to z".toList

def barred : List Char := "0061..007A ; A|B # a to z".toList

theorem namesClass_of_plain :
    ∃ cls, ClassRecord.readLine none plain = .ok cls ∧ cls.name = "STRASSE" ∧
      RuleLine.NamesClass cls.name := by
  have hname : (ClassRecord.readLine none plain).map (·.name) = .ok "STRASSE" := by decide +kernel
  have hsplit : ClassRecord.split? plain =
      some ⟨"0061".toList, some "007A".toList, "Straße".toList⟩ := by
    decide +kernel
  obtain ⟨cls, hread, hcls⟩ := map_eq_ok_iff.mp hname
  obtain ⟨-, parts, hparts, -, hiff⟩ := ClassRecord.namesClass_iff hread
  rw [← ClassRecord.split?_eq_some_iff, hsplit, Option.some.injEq] at hparts
  refine ⟨cls, hread, hcls, hiff.mpr ?_⟩
  rw [← hparts]
  exact Token.forall_mem_of_all (by decide)

/-- The record is accepted, but no rule can be read from the line of its class. -/
theorem not_namesClass_of_barred :
    ∃ cls, ClassRecord.readLine none barred = .ok cls ∧ cls.name = "A|B" ∧
      RuleLine.readLine {} none (RuleLine.selfLine cls.name) =
        .error ⟨"R A|B × A|B", none, .operatorExpected .bar⟩ ∧
      ¬ RuleLine.NamesClass cls.name := by
  have hname : (ClassRecord.readLine none barred).map (·.name) = .ok "A|B" := by decide +kernel
  have hfault : RuleLine.readLine {} none (RuleLine.selfLine "A|B") =
      .error ⟨"R A|B × A|B", none, .operatorExpected .bar⟩ := by
    decide +kernel
  obtain ⟨cls, hread, hcls⟩ := map_eq_ok_iff.mp hname
  refine ⟨cls, hread, hcls, hcls ▸ hfault, ?_⟩
  rintro ⟨rule, hrule, -⟩
  rw [hcls, hfault] at hrule
  cases hrule

end Letters
end BoundaryRules
