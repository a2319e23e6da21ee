import BoundaryRules.Proofs.Capitals
import BoundaryRules.Proofs.LineGrammar
import BoundaryRules.Proofs.Spelling
import BoundaryRules.Proofs.Turns

/-! The rules of a line. A line stands for one rule for each choice of one class from every element
of its patterns, and is refused only if it is not of the grammar. -/
namespace BoundaryRules

namespace Rule

variable {name target : String} {left right : List String} {action : Action} {rule : Rule}

theorem make_eq_ok_iff :
    make name left right target action = .ok rule ↔
      rule.name = name ∧ rule.left = left.map normalizeName ∧
        rule.right = right.map normalizeName ∧ rule.target = normalizeName target ∧
        rule.action = action := by
  constructor
  · intro h
    simp only [make] at h
    split_ifs at h
    obtain rfl := Except.ok.inj h
    exact ⟨rfl, rfl, rfl, rfl, rfl⟩
  · obtain ⟨_, _, _, _, _, hleft, hright, hempty, hstate⟩ := rule
    rintro ⟨rfl, rfl, rfl, rfl, rfl⟩
    rw [make, dif_neg hleft, dif_neg hright, dif_pos hempty, dif_pos hstate]

/-- A rule can be made unless a context or a class name is empty, or an absorbing rule has several
states. -/
theorem exists_make_eq_ok_iff :
    (∃ rule, make name left right target action = .ok rule) ↔
      left ≠ [] ∧ right ≠ [] ∧ "" ∉ (left ++ right ++ [target]).map normalizeName ∧
        (action = .absorb → left.length = 1) := by
  have hnames : (left ++ right ++ [target]).map normalizeName =
      left.map normalizeName ++ right.map normalizeName ++ [normalizeName target] := by
    rw [List.map_append, List.map_append, List.map_singleton]
  rw [hnames]
  constructor
  · rintro ⟨rule, h⟩
    obtain ⟨-, hleft, hright, htarget, rfl⟩ := make_eq_ok_iff.mp h
    rw [← hleft, ← hright, ← htarget]
    refine ⟨?_, ?_, fun hempty => rule.ne_empty "" hempty rfl, fun habsorb => ?_⟩
    · rintro rfl
      exact rule.left_ne_nil hleft
    · rintro rfl
      exact rule.right_ne_nil hright
    · rw [← rule.one_state habsorb, hleft, List.length_map]
  · rintro ⟨hleft, hright, hempty, hstate⟩
    refine ⟨⟨name, left.map normalizeName, right.map normalizeName, normalizeName target, action,
      ?_, ?_, ?_, ?_⟩, make_eq_ok_iff.mpr ⟨rfl, rfl, rfl, rfl, rfl⟩⟩
    · rwa [Ne, List.map_eq_nil_iff]
    · rwa [Ne, List.map_eq_nil_iff]
    · exact fun cls hcls heq => hempty (heq ▸ hcls)
    · rwa [List.length_map]

end Rule

namespace Aliases

variable {aliases : Aliases} {name cls : String}

/-- All classes in the table are normalized names. -/
def Normalized (aliases : Aliases) : Prop :=
  ∀ entry ∈ aliases.entries, ∀ cls ∈ entry.2, normalizeName cls = cls

theorem normalized_insert (h : aliases.Normalized) (name : String) (classes : List String) :
    (aliases.insert name classes).Normalized := by
  have hclasses : ∀ cls ∈ classes.map normalizeName, normalizeName cls = cls := by
    intro cls hcls
    obtain ⟨_, -, rfl⟩ := List.mem_map.mp hcls
    exact normalizeName_normalizeName _
  obtain ⟨entries⟩ := aliases
  unfold Normalized at h ⊢
  simp only [insert] at h ⊢
  induction entries with
  | nil =>
    rw [insert.put, List.forall_mem_singleton]
    exact hclasses
  | cons entry entries ih =>
    obtain ⟨hentry, hentries⟩ := List.forall_mem_cons.mp h
    rw [insert.put]
    split
    next => exact List.forall_mem_cons.mpr ⟨hclasses, hentries⟩
    next => exact List.forall_mem_cons.mpr ⟨hentry, ih hentries⟩

theorem normalized_ofList (definitions : List (String × List String)) :
    (ofList definitions).Normalized := by
  refine List.foldlRecOn definitions _ (motive := Normalized) (List.forall_mem_nil _) ?_
  intro table htable definition _
  exact normalized_insert htable definition.1 definition.2

theorem normalizeName_of_mem_expand (h : aliases.Normalized) (hcls : cls ∈ aliases.expand name) :
    normalizeName cls = cls := by
  unfold expand get? at hcls
  cases hentry : aliases.entries.find? (·.1 = normalizeName name) with
  | none =>
    rw [hentry] at hcls
    obtain rfl := List.mem_singleton.mp hcls
    exact normalizeName_normalizeName name
  | some entry =>
    rw [hentry] at hcls
    exact h entry (List.mem_of_find?_eq_some hentry) cls hcls

theorem expand_ne_nil (h : ∀ entry ∈ aliases.entries, entry.2 ≠ []) (name : String) :
    aliases.expand name ≠ [] := by
  unfold expand get?
  cases hentry : aliases.entries.find? (·.1 = normalizeName name) with
  | none => exact List.cons_ne_nil _ _
  | some entry => exact h entry (List.mem_of_find?_eq_some hentry)

end Aliases

theorem map_normalizeName {names : List String} (h : ∀ cls ∈ names, normalizeName cls = cls) :
    names.map normalizeName = names :=
  (List.map_congr_left h).trans (List.map_id names)

theorem normalizeName_any : normalizeName "ANY" = "ANY" := by decide +kernel

namespace RuleLine

variable {aliases : Aliases} {written : Written} {rules : List Rule} {rule : Rule}
  {left right : List String} {line : List Char} {number : Option Nat}

/-- An absorbing line has a state and a pattern before the operator and one target after it. -/
def Written.Shaped (written : Written) : Prop :=
  written.action = .absorb → 2 ≤ written.left.length ∧ written.right.length = 1

/-- The line has its shape, and no class name in it is empty. -/
structure Written.Sound (aliases : Aliases) (written : Written) : Prop where
  shaped : written.Shaped
  ne_empty : ∀ element ∈ written.left ++ written.right, "" ∉ element.classes aliases

/-- The choices of one class from every element, those from the left pattern outermost. -/
def Written.choices (aliases : Aliases) (written : Written) : List (List String × List String) :=
  (BoundaryRules.choices (written.left.map (Element.classes aliases))).flatMap fun left =>
    (BoundaryRules.choices (written.right.map (Element.classes aliases))).map fun right =>
      (left, right)

/-- What the rule of one choice says. -/
structure Written.Yields (written : Written) (choice : List String × List String) (rule : Rule) :
    Prop where
  name : rule.name = written.name
  action : rule.action = written.action
  absorb : written.action = .absorb →
    ∃ state, choice.1 = state :: rule.right ∧ rule.left = [state] ∧ choice.2 = [rule.target]
  contexts : written.action ≠ .absorb →
    rule.left = (if choice.1 = [] then ["ANY"] else choice.1) ∧
      rule.right = (if choice.2 = [] then ["ANY"] else choice.2) ∧
      rule.right.head? = some rule.target

theorem orAny_eq (context : List String) :
    orAny context = if context = [] then ["ANY"] else context := by
  cases context <;> rfl

theorem orAny_ne_nil (context : List String) : orAny context ≠ [] := by
  cases context <;> exact List.cons_ne_nil _ _

theorem head?_orAny (context : List String) :
    (orAny context).head? = some (context.headD "ANY") := by
  cases context <;> rfl

theorem toRule_of_ne_absorb {name : String} {action : Action} (h : action ≠ .absorb) :
    toRule name action left right =
      Rule.make name (orAny left) (orAny right) (right.headD "ANY") action := by
  cases action with
  | absorb => contradiction
  | cut => rfl
  | join => rfl

theorem normalizeName_of_mem_orAny {context : List String} {cls : String}
    (h : ∀ cls ∈ context, normalizeName cls = cls) (hcls : cls ∈ orAny context) :
    normalizeName cls = cls := by
  cases context with
  | nil =>
    obtain rfl := List.mem_singleton.mp hcls
    exact normalizeName_any
  | cons first context => exact h cls hcls

theorem empty_mem_orAny_iff {context : List String} : "" ∈ orAny context ↔ "" ∈ context := by
  cases context with
  | nil => decide
  | cons first context => rfl

section Choice

variable (hleft : ∀ cls ∈ left, normalizeName cls = cls)
  (hright : ∀ cls ∈ right, normalizeName cls = cls)
  (hshape : written.action = .absorb → 2 ≤ left.length ∧ right.length = 1)
include hleft hright hshape

theorem toRule_eq_ok_iff :
    toRule written.name written.action left right = .ok rule ↔
      written.Yields (left, right) rule := by
  by_cases habsorb : written.action = .absorb
  · obtain ⟨hstate, hone⟩ := hshape habsorb
    obtain ⟨target, rfl⟩ := List.length_eq_one_iff.mp hone
    cases left with
    | nil => cases hstate
    | cons state pattern =>
      obtain ⟨hstate, hpattern⟩ := List.forall_mem_cons.mp hleft
      have htarget := hright target (List.mem_singleton_self target)
      have hmake : toRule written.name .absorb (state :: pattern) [target] =
          Rule.make written.name [state] pattern target .absorb := rfl
      rw [habsorb, hmake, Rule.make_eq_ok_iff, List.map_singleton, hstate,
        map_normalizeName hpattern, htarget]
      constructor
      · rintro ⟨hname, hruleLeft, rfl, rfl, haction⟩
        exact ⟨hname, haction.trans habsorb.symm, fun _ => ⟨state, rfl, hruleLeft, rfl⟩,
          fun hne => absurd habsorb hne⟩
      · intro h
        obtain ⟨_, hpattern, hruleLeft, htarget⟩ := h.absorb habsorb
        obtain ⟨rfl, rfl⟩ := List.cons.inj hpattern
        exact ⟨h.name, hruleLeft, rfl, (List.singleton_inj.mp htarget).symm,
          h.action.trans habsorb⟩
  · have hhead : normalizeName (right.headD "ANY") = right.headD "ANY" := by
      apply normalizeName_of_mem_orAny hright
      exact List.mem_of_head? (head?_orAny right)
    rw [toRule_of_ne_absorb habsorb, Rule.make_eq_ok_iff, hhead,
      map_normalizeName fun cls => normalizeName_of_mem_orAny hleft,
      map_normalizeName fun cls => normalizeName_of_mem_orAny hright]
    constructor
    · rintro ⟨hname, hruleLeft, hruleRight, htarget, haction⟩
      refine ⟨hname, haction, fun h => absurd h habsorb, fun _ => ⟨?_, ?_, ?_⟩⟩
      · rw [hruleLeft, orAny_eq]
      · rw [hruleRight, orAny_eq]
      · rw [hruleRight, head?_orAny, htarget]
    · intro h
      obtain ⟨hruleLeft, hruleRight, htarget⟩ := h.contexts habsorb
      rw [← orAny_eq] at hruleLeft hruleRight
      rw [hruleRight, head?_orAny] at htarget
      exact ⟨h.name, hruleLeft, hruleRight, (Option.some.inj htarget).symm, h.action⟩

/-- A choice has a rule unless it has an empty class name. -/
theorem exists_toRule_eq_ok_iff :
    (∃ rule, toRule written.name written.action left right = .ok rule) ↔
      "" ∉ left ∧ "" ∉ right := by
  by_cases habsorb : written.action = .absorb
  · obtain ⟨hstate, hone⟩ := hshape habsorb
    obtain ⟨target, rfl⟩ := List.length_eq_one_iff.mp hone
    match left, hstate with
    | state :: first :: pattern, _ =>
      have hmake : toRule written.name .absorb (state :: first :: pattern) [target] =
          Rule.make written.name [state] (first :: pattern) target .absorb := rfl
      have hnames : ∀ cls ∈ [state] ++ (first :: pattern) ++ [target], normalizeName cls = cls :=
        List.forall_mem_append.mpr ⟨hleft, hright⟩
      rw [habsorb, hmake, Rule.exists_make_eq_ok_iff, map_normalizeName hnames]
      simp [and_assoc]
  · have htarget : right.headD "ANY" ∈ orAny right := List.mem_of_head? (head?_orAny right)
    have hnames : ∀ cls ∈ orAny left ++ orAny right ++ [right.headD "ANY"],
        normalizeName cls = cls := by
      simp only [List.forall_mem_append, List.forall_mem_singleton]
      exact ⟨⟨fun cls => normalizeName_of_mem_orAny hleft,
        fun cls => normalizeName_of_mem_orAny hright⟩, normalizeName_of_mem_orAny hright htarget⟩
    have hempty : "" ∈ orAny left ++ orAny right ++ [right.headD "ANY"] ↔
        "" ∈ left ∨ "" ∈ right := by
      rw [List.mem_append, List.mem_append, empty_mem_orAny_iff, empty_mem_orAny_iff,
        List.mem_singleton, or_iff_left_iff_imp]
      intro heq
      rw [← heq, empty_mem_orAny_iff] at htarget
      exact .inr htarget
    rw [toRule_of_ne_absorb habsorb, Rule.exists_make_eq_ok_iff, map_normalizeName hnames, hempty,
      not_or]
    simp only [habsorb, false_implies, and_true, ne_eq, orAny_ne_nil, not_false_eq_true, true_and]

end Choice

section Line

variable (hnormalized : aliases.Normalized)
include hnormalized

theorem normalizeName_of_mem_classes (element : Element) :
    ∀ cls ∈ element.classes aliases, normalizeName cls = cls := by
  intro cls hcls
  obtain ⟨name, -, hname⟩ := List.mem_flatMap.mp hcls
  exact Aliases.normalizeName_of_mem_expand hnormalized hname

theorem normalizeName_of_mem_choice {elements : List Element} {choice : List String}
    (h : choice ∈ BoundaryRules.choices (elements.map (Element.classes aliases))) :
    ∀ cls ∈ choice, normalizeName cls = cls := by
  intro cls hcls
  obtain ⟨classes, hclasses, hmem⟩ := exists_group_of_mem_choice h hcls
  obtain ⟨element, -, rfl⟩ := List.mem_map.mp hclasses
  exact normalizeName_of_mem_classes hnormalized element cls hmem

omit hnormalized in
theorem Written.mem_choices_iff {choice : List String × List String} :
    choice ∈ written.choices aliases ↔
      choice.1 ∈ BoundaryRules.choices (written.left.map (Element.classes aliases)) ∧
        choice.2 ∈ BoundaryRules.choices (written.right.map (Element.classes aliases)) := by
  simp only [Written.choices, List.mem_flatMap, List.mem_map]
  constructor
  · rintro ⟨left, hleft, right, hright, rfl⟩
    exact ⟨hleft, hright⟩
  · rintro ⟨hleft, hright⟩
    exact ⟨choice.1, hleft, choice.2, hright, rfl⟩

omit hnormalized in
theorem Written.Shaped.choice {choice : List String × List String} (hshaped : written.Shaped)
    (h : choice ∈ written.choices aliases) :
    written.action = .absorb → 2 ≤ choice.1.length ∧ choice.2.length = 1 := by
  obtain ⟨hleft, hright⟩ := Written.mem_choices_iff.mp h
  rw [length_of_mem_choices hleft, length_of_mem_choices hright, List.length_map, List.length_map]
  exact hshaped

omit hnormalized in
/-- No choice has an empty class name just if no element has. -/
theorem forall_choices_ne_empty_iff (hexpand : ∀ name, aliases.expand name ≠ []) :
    (∀ choice ∈ written.choices aliases, "" ∉ choice.1 ∧ "" ∉ choice.2) ↔
      ∀ element ∈ written.left ++ written.right, "" ∉ element.classes aliases := by
  have hne : ∀ elements : List Element,
      ∀ classes ∈ elements.map (Element.classes aliases), classes ≠ [] := by
    intro elements classes hclasses
    obtain ⟨element, -, rfl⟩ := List.mem_map.mp hclasses
    exact classes_ne_nil hexpand element
  constructor
  · intro h element helement hempty
    rcases List.mem_append.mp helement with helement | helement
    · obtain ⟨left, hleft, hmem⟩ :=
        exists_mem_choices_of_mem (hne written.left) (List.mem_map_of_mem helement) hempty
      obtain ⟨right, hright⟩ := exists_mem_choices (hne written.right)
      exact (h (left, right) (Written.mem_choices_iff.mpr ⟨hleft, hright⟩)).1 hmem
    · obtain ⟨left, hleft⟩ := exists_mem_choices (hne written.left)
      obtain ⟨right, hright, hmem⟩ :=
        exists_mem_choices_of_mem (hne written.right) (List.mem_map_of_mem helement) hempty
      exact (h (left, right) (Written.mem_choices_iff.mpr ⟨hleft, hright⟩)).2 hmem
  · intro h choice hchoice
    obtain ⟨hleft, hright⟩ := Written.mem_choices_iff.mp hchoice
    refine ⟨fun hempty => ?_, fun hempty => ?_⟩
    · obtain ⟨_, hclasses, hmem⟩ := exists_group_of_mem_choice hleft hempty
      obtain ⟨element, helement, rfl⟩ := List.mem_map.mp hclasses
      exact h element (List.mem_append_left _ helement) hmem
    · obtain ⟨_, hclasses, hmem⟩ := exists_group_of_mem_choice hright hempty
      obtain ⟨element, helement, rfl⟩ := List.mem_map.mp hclasses
      exact h element (List.mem_append_right _ helement) hmem

omit hnormalized in
theorem readLine_eq_ok_iff
    (hreadable : ∀ element ∈ written.left ++ written.right, element.Readable aliases)
    (hscan : Token.scan line = written.tokens) :
    readLine aliases number line = .ok rules ↔
      written.Shaped ∧ (written.choices aliases).mapM (fun choice =>
        toRule written.name written.action choice.1 choice.2) = .ok rules := by
  have hrules : (written.sketch aliases).rules =
      (written.choices aliases).mapM fun choice =>
        toRule written.name written.action choice.1 choice.2 := by
    simp only [Sketch.rules, combinations_eq]
    rfl
  rw [readLine, mapError_eq_ok_iff, read, hscan, ofTokens_tokens written hreadable]
  split
  next hbad =>
    have hshaped : ¬ written.Shaped := by
      intro hshaped
      have := hshaped hbad.1
      have := hbad.2
      omega
    simp [hshaped]
  next hgood =>
    have hshaped : written.Shaped := by
      intro habsorb
      have := not_and.mp hgood habsorb
      omega
    rw [ok_bind, mapError_eq_ok_iff, hrules, and_iff_right hshaped]

variable (hexpand : ∀ name, aliases.expand name ≠ []) (hscan : Token.scan line = written.tokens)
include hexpand hscan

/-- The rules of a line are those of its choices. -/
theorem forall₂_yields (hread : readLine aliases number line = .ok rules) :
    List.Forall₂ written.Yields (written.choices aliases) rules := by
  obtain ⟨hshaped, hrules⟩ :=
    (readLine_eq_ok_iff (fun element _ => element.readable hexpand) hscan).mp hread
  have hmade := (List.forall₂_and_left _ _).mpr ⟨fun _ hchoice => hchoice, mapM_eq_ok_iff.mp hrules⟩
  refine hmade.imp fun choice rule ⟨hchoice, hrule⟩ => ?_
  obtain ⟨hleft, hright⟩ := Written.mem_choices_iff.mp hchoice
  exact (toRule_eq_ok_iff (normalizeName_of_mem_choice hnormalized hleft)
    (normalizeName_of_mem_choice hnormalized hright) (hshaped.choice hchoice)).mp hrule

theorem exists_readLine_iff :
    (∃ rules, readLine aliases number line = .ok rules) ↔ written.Sound aliases := by
  have hrule (hshaped : written.Shaped) : ∀ choice ∈ written.choices aliases,
      ((∃ rule, toRule written.name written.action choice.1 choice.2 = .ok rule) ↔
        "" ∉ choice.1 ∧ "" ∉ choice.2) := by
    intro choice hchoice
    obtain ⟨hleft, hright⟩ := Written.mem_choices_iff.mp hchoice
    exact exists_toRule_eq_ok_iff (normalizeName_of_mem_choice hnormalized hleft)
      (normalizeName_of_mem_choice hnormalized hright) (hshaped.choice hchoice)
  simp only [readLine_eq_ok_iff (fun element _ => element.readable hexpand) hscan, exists_and_left,
    exists_mapM_eq_ok_iff]
  constructor
  · rintro ⟨hshaped, hall⟩
    refine ⟨hshaped, (forall_choices_ne_empty_iff hexpand).mp fun choice hchoice => ?_⟩
    exact (hrule hshaped choice hchoice).mp (hall choice hchoice)
  · rintro ⟨hshaped, hempty⟩
    have hall := (forall_choices_ne_empty_iff hexpand).mpr hempty
    exact ⟨hshaped, fun choice hchoice => (hrule hshaped choice hchoice).mpr (hall choice hchoice)⟩

end Line

/-- The reader accepts the lines of the grammar only, and takes each for the rules of its
choices. -/
theorem readLine_iff (definitions : List (String × List String)) (number : Option Nat)
    (line : List Char)
    (h : ∀ entry ∈ (Aliases.ofList definitions).entries, entry.2 ≠ []) :
    ((∃ rules, readLine (Aliases.ofList definitions) number line = .ok rules) ↔
      ∃ written : Written, Token.Spells written.tokens line ∧
        written.Sound (Aliases.ofList definitions)) ∧
    ∀ rules, readLine (Aliases.ofList definitions) number line = .ok rules →
      ∀ written : Written, Token.Spells written.tokens line →
        List.Forall₂ written.Yields (written.choices (Aliases.ofList definitions)) rules := by
  have hnormalized := Aliases.normalized_ofList definitions
  have hexpand := Aliases.expand_ne_nil h
  simp only [← Token.scan_eq_iff]
  refine ⟨⟨?_, ?_⟩, fun rules hread written hscan =>
    forall₂_yields hnormalized hexpand hscan hread⟩
  · rintro ⟨rules, hread⟩
    obtain ⟨sketch, hsketch, -⟩ := bind_eq_ok_iff.mp (mapError_eq_ok_iff.mp hread)
    obtain ⟨written, hscan⟩ := exists_written hsketch
    exact ⟨written, hscan, (exists_readLine_iff hnormalized hexpand hscan).mp ⟨rules, hread⟩⟩
  · rintro ⟨written, hscan, hsound⟩
    exact (exists_readLine_iff hnormalized hexpand hscan).mpr hsound

end RuleLine

/-! A line with an alias and a group. -/
namespace MiddleLetters

def definitions : List (String × List String) := [("AHLetter", ["ALetter", "Hebrew_Letter"])]

def line : List Char := "WB6 ahletter × (MidLetter | MidNumLet) AHLetter".toList

def written : RuleLine.Written where
  name := "WB6"
  left := [.single "ahletter"]
  action := .join
  right := [.group "MidLetter" ["MidNumLet"], .single "AHLetter"]

theorem readLine_of_alias :
    (∀ entry ∈ (Aliases.ofList definitions).entries, entry.2 ≠ []) ∧
      ∃ rules, RuleLine.readLine (Aliases.ofList definitions) none line = .ok rules ∧
        rules.length = 8 := by
  have hentries : ∀ entry ∈ (Aliases.ofList definitions).entries, entry.2 ≠ [] := by
    decide +kernel
  have hspells : Token.Spells written.tokens line :=
    Token.scan_eq_iff.mp (by decide +kernel)
  obtain ⟨hsuccess, hrules⟩ := RuleLine.readLine_iff definitions none line hentries
  obtain ⟨rules, hread⟩ := hsuccess.mpr ⟨written, hspells, (nomatch ·), by decide +kernel⟩
  have hlength := (hrules rules hread written hspells).length_eq
  have hchoices : (written.choices (Aliases.ofList definitions)).length = 8 := by decide +kernel
  exact ⟨hentries, rules, hread, hlength.symm.trans hchoices⟩

end MiddleLetters
end BoundaryRules
