import BoundaryRules.Proofs.Traversal
import BoundaryRules.RuleLine

/-! The grammar of rule lines. What the reader takes for a pattern is a sequence of elements, and
every sequence of elements is read as the classes that its names stand for. -/
namespace BoundaryRules.RuleLine

/-- Further names of a group as written. -/
def moreTokens (names : List String) : List Token := names.flatMap fun name => [.bar, .name name]

/-- An element of a pattern: a name, or names between parentheses. -/
inductive Element where
  | single (name : String)
  | group (first : String) (more : List String)

namespace Element

def names : Element → List String
  | single name => [name]
  | group first more => first :: more

/-- The element as written. -/
def tokens : Element → List Token
  | single name => [.name name]
  | group first more => .leftParen :: .name first :: moreTokens more ++ [.rightParen]

/-- The classes to choose from. -/
def classes (aliases : Aliases) (element : Element) : List String :=
  element.names.flatMap aliases.expand

/-- A name by itself is read only if it stands for some class. -/
def Readable (aliases : Aliases) : Element → Prop
  | single name => aliases.expand name ≠ []
  | group _ _ => True

end Element

/-- The parts of a line `NAME PATTERN OPERATOR PATTERN`. -/
structure Written where
  name : String
  left : List Element
  action : Action
  right : List Element

def Written.tokens (written : Written) : List Token :=
  .name written.name :: written.left.flatMap Element.tokens ++
    .operator written.action :: written.right.flatMap Element.tokens

/-- A line with the classes that its names stand for. -/
def Written.sketch (aliases : Aliases) (written : Written) : Sketch where
  name := written.name
  left := written.left.map (Element.classes aliases)
  action := written.action
  right := written.right.map (Element.classes aliases)

variable {aliases : Aliases} {pattern : Pattern} {tokens rest : List Token} {element : Element}
  {elements : List Element} {written : Written} {sketch : Sketch}

section Written

theorem classes_ne_nil (haliases : ∀ name, aliases.expand name ≠ []) (element : Element) :
    element.classes aliases ≠ [] := by
  cases element with
  | single name => simpa [Element.classes, Element.names] using haliases name
  | group first more => simp [Element.classes, Element.names, haliases first]

theorem Element.readable (haliases : ∀ name, aliases.expand name ≠ []) (element : Element) :
    element.Readable aliases := by
  cases element with
  | single name => exact haliases name
  | group first more => trivial

theorem readSeparator_tokens (names : List String) (choices : List String) :
    readSeparator aliases pattern choices
        (moreTokens names ++ .rightParen :: rest) =
      readPattern aliases (pattern ++ [choices ++ names.flatMap aliases.expand]) rest := by
  induction names generalizing choices with
  | nil => simp [moreTokens, readSeparator]
  | cons name names ih =>
    rw [moreTokens] at ih ⊢
    simp only [List.flatMap_cons, List.cons_append, List.nil_append, readSeparator, readChoice, ih,
      List.append_assoc]

/-- An element is read as its classes. -/
theorem readPattern_element (h : element.Readable aliases) :
    readPattern aliases pattern (element.tokens ++ rest) =
      readPattern aliases (pattern ++ [element.classes aliases]) rest := by
  cases element with
  | single name =>
    have hempty : (aliases.expand name).isEmpty = false := List.isEmpty_eq_false_iff.mpr h
    simp [Element.tokens, Element.classes, Element.names, readPattern, hempty]
  | group first more =>
    simp only [Element.tokens, Element.classes, Element.names, List.cons_append, List.append_assoc,
      List.nil_append, readPattern, readChoice, readSeparator_tokens, List.flatMap_cons]

theorem readPattern_elements (h : ∀ element ∈ elements, element.Readable aliases) :
    readPattern aliases pattern (elements.flatMap Element.tokens ++ rest) =
      readPattern aliases (pattern ++ elements.map (Element.classes aliases)) rest := by
  induction elements generalizing pattern with
  | nil => simp
  | cons element elements ih =>
    obtain ⟨helement, helements⟩ := List.forall_mem_cons.mp h
    rw [List.flatMap_cons, List.append_assoc, readPattern_element helement, ih helements,
      List.map_cons, List.append_assoc, List.singleton_append]

theorem readPattern_operator (action : Action) :
    readPattern aliases pattern (.operator action :: rest) =
      .ok (pattern, .operator action :: rest) := by
  simp [readPattern]

/-- A written line is read as it is meant, unless it absorbs and has another shape. -/
theorem ofTokens_tokens (written : Written)
    (h : ∀ element ∈ written.left ++ written.right, element.Readable aliases) :
    Sketch.ofTokens aliases written.tokens =
      if written.action = .absorb ∧ (written.left.length < 2 ∨ written.right.length ≠ 1) then
        .error .absorbShape
      else .ok (written.sketch aliases) := by
  obtain ⟨hleft, hright⟩ := List.forall_mem_append.mp h
  have hread : readPattern aliases [] (written.right.flatMap Element.tokens) =
      .ok (written.right.map (Element.classes aliases), []) := by
    rw [← List.append_nil (written.right.flatMap Element.tokens), readPattern_elements hright,
      List.nil_append, readPattern]
    · exact fun name tokens h => nomatch h
    · exact fun tokens h => nomatch h
  simp only [Sketch.ofTokens, Written.tokens, Written.sketch, List.cons_append, ok_bind,
    readPattern_elements hleft, readPattern_operator, hread, List.nil_append, List.length_map]

end Written

/-- What is read is written as elements. -/
theorem exists_elements (tokens : List Token) :
    (∀ before, readPattern aliases before tokens = .ok (pattern, rest) →
      ∃ elements : List Element, tokens = elements.flatMap Element.tokens ++ rest) ∧
    (∀ before choices, readChoice aliases before choices tokens = .ok (pattern, rest) →
      ∃ first more, ∃ elements : List Element, tokens =
        .name first :: moreTokens more ++ .rightParen :: elements.flatMap Element.tokens ++ rest) ∧
    ∀ before choices, readSeparator aliases before choices tokens = .ok (pattern, rest) →
      ∃ more, ∃ elements : List Element, tokens =
        moreTokens more ++ .rightParen :: elements.flatMap Element.tokens ++ rest := by
  induction tokens with
  | nil =>
    refine ⟨fun before h => ?_, fun before choices h => ?_, fun before choices h => ?_⟩
    · simp only [readPattern, Except.ok.injEq, Prod.mk.injEq] at h
      exact ⟨[], by rw [← h.2]; rfl⟩
    · cases h
    · cases h
  | cons token tokens ih =>
    obtain ⟨ihpattern, ihchoice, ihseparator⟩ := ih
    refine ⟨fun before h => ?_, fun before choices h => ?_, fun before choices h => ?_⟩
    · cases token with
      | name name =>
        simp only [readPattern] at h
        split at h
        next => cases h
        next =>
          obtain ⟨elements, rfl⟩ := ihpattern _ h
          exact ⟨.single name :: elements, rfl⟩
      | leftParen =>
        simp only [readPattern] at h
        obtain ⟨first, more, elements, rfl⟩ := ihchoice _ _ h
        exact ⟨.group first more :: elements, by simp [Element.tokens]⟩
      | _ =>
        simp only [readPattern, Except.ok.injEq, Prod.mk.injEq] at h
        exact ⟨[], by rw [← h.2]; rfl⟩
    · cases token with
      | name name =>
        simp only [readChoice] at h
        obtain ⟨more, elements, rfl⟩ := ihseparator _ _ h
        exact ⟨name, more, elements, rfl⟩
      | _ => cases h
    · cases token with
      | bar =>
        simp only [readSeparator] at h
        obtain ⟨first, more, elements, rfl⟩ := ihchoice _ _ h
        exact ⟨first :: more, elements, rfl⟩
      | rightParen =>
        simp only [readSeparator] at h
        obtain ⟨elements, rfl⟩ := ihpattern _ h
        exact ⟨[], elements, rfl⟩
      | _ => cases h

theorem exists_written (h : Sketch.ofTokens aliases tokens = .ok sketch) :
    ∃ written : Written, tokens = written.tokens := by
  cases tokens with
  | nil => cases h
  | cons token tokens =>
    cases token with
    | name name =>
      simp only [Sketch.ofTokens, ok_bind, bind_eq_ok_iff] at h
      obtain ⟨⟨left, tokens⟩, hleft, h⟩ := h
      obtain ⟨leftElements, rfl⟩ := (exists_elements _).1 _ hleft
      cases tokens with
      | nil => cases h
      | cons token tokens =>
        cases token with
        | operator action =>
          simp only [bind_eq_ok_iff] at h
          obtain ⟨⟨right, tokens⟩, hright, h⟩ := h
          obtain ⟨rightElements, rfl⟩ := (exists_elements _).1 _ hright
          cases tokens with
          | nil => exact ⟨⟨name, leftElements, action, rightElements⟩, by simp [Written.tokens]⟩
          | cons token tokens => cases h
        | _ => cases h
    | _ => cases h

end BoundaryRules.RuleLine
