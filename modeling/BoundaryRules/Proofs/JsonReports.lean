import BoundaryRules.Proofs.RecordText
import BoundaryRules.Report.Layout

/-! Reports in JSON spell their entries, each as an object with a member for each part. What spells
what is as in the grammar of JSON, of which reports need arrays of objects of numbers and texts. -/
namespace BoundaryRules.Json

/-- The characters that a letter stands for behind a backslash. -/
def shortEscapes : List (Char × Char) :=
  [('"', '"'), ('\\', '\\'), ('/', '/'), ('b', '\x08'), ('f', '\x0c'), ('n', '\n'), ('r', '\r'),
    ('t', '\t')]

/-- What stands between quotes for a text. -/
inductive Encodes : List Char → List Char → Prop where
  | nil : Encodes [] []
  | plain {c : Char} {written text : List Char} (hquote : c ≠ '"') (hbackslash : c ≠ '\\')
      (hcontrol : 0x20 ≤ c.toNat) (h : Encodes written text) : Encodes (c :: written) (c :: text)
  | short {letter c : Char} {written text : List Char} (hescape : (letter, c) ∈ shortEscapes)
      (h : Encodes written text) : Encodes ('\\' :: letter :: written) (c :: text)
  | unicode {digits : List Char} {c : Char} {written text : List Char} (hlength : digits.length = 4)
      (hdigits : ∀ d ∈ digits, Hex.isDigit d = true) (hvalue : Hex.value digits = c.toNat)
      (h : Encodes written text) : Encodes ('\\' :: 'u' :: digits ++ written) (c :: text)

/-- A value of a member. -/
inductive Scalar where
  | number (n : Nat)
  | text (content : List Char)
deriving DecidableEq

/-- How a value is written. -/
inductive Scalar.Spelled : List Char → Scalar → Prop where
  | number (n : Nat) : Spelled (Nat.toDigits 10 n) (number n)
  | text {written content : List Char} (h : Encodes written content) :
      Spelled ('"' :: written ++ ['"']) (text content)

def isBlank (c : Char) : Bool := c == ' ' || c == '\t' || c == '\n' || c == '\r'

/-- What may stand between all other parts. -/
def IsBlank (written : List Char) : Prop := ∀ c ∈ written, isBlank c = true

instance (written : List Char) : Decidable (IsBlank written) :=
  decidable_of_iff (written.all isBlank = true) List.all_eq_true

section Listed

variable {α : Type} {p : List Char → α → Prop} {front separator back written : List Char} {a : α}

/-- Something written with blanks on either side. -/
inductive Padded (p : List Char → α → Prop) : List Char → α → Prop where
  | intro {front written back : List Char} {a : α} (hfront : IsBlank front) (hback : IsBlank back)
      (h : p written a) : Padded p (front ++ written ++ back) a

theorem IsBlank.append (hfront : IsBlank front) (hback : IsBlank back) : IsBlank (front ++ back) :=
  fun c hc => (List.mem_append.mp hc).elim (hfront c) (hback c)

/-- Further blanks do not matter. -/
theorem Padded.pad (h : Padded p written a) (hfront : IsBlank front) (hback : IsBlank back) :
    Padded p (front ++ written ++ back) a := by
  obtain ⟨hfirst, hlast, h⟩ := h
  have hwhole := Padded.intro (hfront.append hfirst) (hlast.append hback) h
  simpa using hwhole

/-- Entries with commas between them. -/
inductive Listed (p : List Char → α → Prop) : List Char → List α → Prop where
  | none {written : List Char} (h : IsBlank written) : Listed p written []
  | one {written : List Char} {a : α} (h : Padded p written a) : Listed p written [a]
  | more {written rest : List Char} {a b : α} {as : List α} (h : Padded p written a)
      (hmore : Listed p rest (b :: as)) : Listed p (written ++ ',' :: rest) (a :: b :: as)

/-- Commas behind all entries but the last list them, whatever blanks follow the commas. -/
theorem listed_intercalate {lines : List (List Char)} {entries : List α} (hfront : IsBlank front)
    (hseparator : IsBlank separator) (hback : IsBlank back)
    (hlines : List.Forall₂ (Padded p) lines entries) (hentries : entries ≠ []) :
    Listed p (front ++ (',' :: separator).intercalate lines ++ back) entries := by
  induction hlines generalizing front with
  | nil => contradiction
  | cons hline hlines ih =>
    cases hlines with
    | nil => exact .one (by simpa using hline.pad hfront hback)
    | cons hnext hlines =>
      have hrest := ih hseparator (List.cons_ne_nil _ _)
      have hfirst := hline.pad hfront (List.forall_mem_nil _)
      simpa [List.intercalate_cons_cons] using Listed.more hfirst hrest

end Listed

/-- A member of an object. -/
inductive Member.Spelled : List Char → List Char × Scalar → Prop where
  | intro {written name blanks value : List Char} {scalar : Scalar} (hname : Encodes written name)
      (hblanks : IsBlank blanks) (hvalue : Padded Scalar.Spelled value scalar) :
      Spelled ('"' :: written ++ '"' :: blanks ++ ':' :: value) (name, scalar)

/-- An object with members in order. -/
inductive Object.Spelled : List Char → List (List Char × Scalar) → Prop where
  | intro {written : List Char} {members : List (List Char × Scalar)}
      (h : Listed Member.Spelled written members) : Spelled ('\x7b' :: written ++ ['\x7d']) members

/-- An array of objects as a whole text. -/
inductive IsReport : List Char → List (List (List Char × Scalar)) → Prop where
  | intro {written back : List Char} {objects : List (List (List Char × Scalar))}
      (h : Listed Object.Spelled written objects) (hback : IsBlank back) :
      IsReport ('[' :: written ++ ']' :: back) objects

theorem isDigit_toLower_digit {m : Nat} (h : m < 16) :
    Hex.isDigit (Hex.digit m).toLower = true := by
  revert m
  decide

theorem digitValue_toLower_digit {m : Nat} (h : m < 16) :
    Hex.digitValue (Hex.digit m).toLower = Hex.digitValue (Hex.digit m) := by
  revert m
  decide

theorem exists_digit_of_mem_padded {c : Char} {width n : Nat} (h : c ∈ Hex.padded width n) :
    ∃ m < 16, Hex.digit m = c := by
  rcases List.mem_append.mp h with hzero | hdigit
  · obtain rfl := List.eq_of_mem_replicate hzero
    exact ⟨0, by decide, rfl⟩
  · exact Hex.exists_digit_of_mem_digits hdigit

/-- Small digits have the same value. -/
theorem value_map_toLower (width n : Nat) :
    Hex.value ((Hex.padded width n).map Char.toLower) = n := by
  rw [Hex.value, List.foldl_map]
  refine Eq.trans (List.foldl_ext _ _ _ fun value c hc => ?_) (Hex.value_padded width n)
  obtain ⟨m, hm, rfl⟩ := exists_digit_of_mem_padded hc
  rw [digitValue_toLower_digit hm]

theorem length_padded {n : Nat} (h : n < 0x100) : (Hex.padded 4 n).length = 4 := by
  have hdigits : (Hex.digits n).length ≤ 2 := by
    rw [Hex.digits]
    split
    · exact Nat.le_succ 1
    · have hsmall : n / 16 < 16 := by omega
      rw [Hex.digits, if_pos hsmall]
      exact Nat.le_refl 2
  rw [Hex.padded, List.length_append, List.length_replicate]
  omega

/-- The escape of a control character that has no letter. -/
theorem unicode_of_lt {n : Nat} (h : n < 0x20) :
    ((Hex.padded 4 n).map Char.toLower).length = 4 ∧
      (∀ d ∈ (Hex.padded 4 n).map Char.toLower, Hex.isDigit d = true) ∧
      Hex.value ((Hex.padded 4 n).map Char.toLower) = n := by
  refine ⟨by rw [List.length_map, length_padded (by omega)], ?_, value_map_toLower 4 n⟩
  intro d hd
  obtain ⟨c, hc, rfl⟩ := List.mem_map.mp hd
  obtain ⟨m, hm, rfl⟩ := exists_digit_of_mem_padded hc
  exact isDigit_toLower_digit hm

theorem encodes_flatMap (text : List Char) : Encodes (text.flatMap escape) text := by
  induction text with
  | nil => exact .nil
  | cons c text ih =>
    rw [List.flatMap_cons, escape]
    split_ifs with hself hback hfeed hnewline hreturn htab hcontrol
    · rcases hself with rfl | rfl
      · exact .short (by decide) ih
      · exact .short (by decide) ih
    · subst hback; exact .short (by decide) ih
    · subst hfeed; exact .short (by decide) ih
    · subst hnewline; exact .short (by decide) ih
    · subst hreturn; exact .short (by decide) ih
    · subst htab; exact .short (by decide) ih
    · obtain ⟨hlength, hdigits, hvalue⟩ := unicode_of_lt hcontrol
      exact .unicode hlength hdigits hvalue ih
    · rw [not_or] at hself
      exact .plain hself.1 hself.2 (Nat.le_of_not_lt hcontrol) ih

theorem spelled_quote (text : String) :
    Scalar.Spelled (quote text).toList (.text text.toList) := by
  rw [quote, String.toList_ofList]
  exact .text (encodes_flatMap _)

theorem spelled_toString (n : Nat) : Scalar.Spelled (toString n).toList (.number n) := by
  rw [Nat.toString_eq_ofList_toDigits, String.toList_ofList]
  exact .number n

theorem spelled_field {value : String} {scalar : Scalar} (name : String)
    (h : Scalar.Spelled value.toList scalar) :
    Padded Member.Spelled (field name value).toList (name.toList, scalar) := by
  have hvalue : Padded Scalar.Spelled ([' '] ++ value.toList ++ []) scalar :=
    .intro (by decide) (by decide) h
  have hmember := Member.Spelled.intro (encodes_flatMap name.toList) (List.forall_mem_nil _) hvalue
  have hpadded : Padded Member.Spelled ([' ', ' ', ' ', ' '] ++ _ ++ []) _ :=
    .intro (by decide) (by decide) hmember
  simpa [field, quote] using hpadded

theorem spelled_object {fields : List String} {members : List (List Char × Scalar)}
    (h : List.Forall₂ (Padded Member.Spelled) (fields.map String.toList) members)
    (hmembers : members ≠ []) :
    Padded Object.Spelled (object fields).toList members := by
  have hlisted : Listed Member.Spelled
      (['\n'] ++ (',' :: ['\n']).intercalate (fields.map String.toList) ++ ['\n', ' ', ' '])
      members :=
    listed_intercalate (by decide) (by decide) (by decide) h hmembers
  have hpadded : Padded Object.Spelled ([' ', ' '] ++ _ ++ []) members :=
    .intro (by decide) (by decide) (.intro hlisted)
  simpa [object, String.toList_intercalate] using hpadded

theorem isReport_array {lines : List String} {objects : List (List (List Char × Scalar))}
    (h : List.Forall₂ (Padded Object.Spelled) (lines.map String.toList) objects) :
    IsReport (array lines).toList objects := by
  cases lines with
  | nil =>
    cases h
    have hreport : IsReport ('[' :: [] ++ ']' :: ['\n']) [] :=
      .intro (.none (by decide)) (by decide)
    exact hreport
  | cons line lines =>
    have hobjects : objects ≠ [] := by
      rintro rfl
      cases h
    have hlisted : Listed Object.Spelled
        (['\n'] ++ (',' :: ['\n']).intercalate ((line :: lines).map String.toList) ++ ['\n'])
        objects :=
      listed_intercalate (by decide) (by decide) (by decide) h hobjects
    have hreport : IsReport ('[' :: _ ++ ']' :: ['\n']) objects := .intro hlisted (by decide)
    simpa [array, String.toList_intercalate] using hreport

/-- The parts of a segment in a report. -/
def segmentMembers (entry : String × Segment) : List (List Char × Scalar) :=
  [("source".toList, .text entry.1.toList), ("offset".toList, .number entry.2.offset),
    ("text".toList, .text entry.2.text.toList)]

theorem isReport_ofSegments (segments : List (String × Segment)) :
    IsReport (ofSegments segments).toList (segments.map segmentMembers) := by
  refine isReport_array ?_
  rw [List.map_map, List.forall₂_map_left_iff, List.forall₂_map_right_iff, List.forall₂_same]
  rintro ⟨source, segment⟩ -
  refine spelled_object ?_ (List.cons_ne_nil _ _)
  exact .cons (spelled_field _ (spelled_quote _)) (.cons (spelled_field _ (spelled_toString _))
    (.cons (spelled_field _ (spelled_quote _)) .nil))

/-- The parts of a count in a report. -/
def countMembers (entry : String × Nat) : List (List Char × Scalar) :=
  [("word".toList, .text entry.1.toList), ("count".toList, .number entry.2)]

theorem isReport_ofCounts (counts : List (String × Nat)) :
    IsReport (ofCounts counts).toList (counts.map countMembers) := by
  refine isReport_array ?_
  rw [List.map_map, List.forall₂_map_left_iff, List.forall₂_map_right_iff, List.forall₂_same]
  rintro ⟨word, count⟩ -
  refine spelled_object ?_ (List.cons_ne_nil _ _)
  exact .cons (spelled_field _ (spelled_quote _))
    (.cons (spelled_field _ (spelled_toString _)) .nil)

end BoundaryRules.Json
