import BoundaryRules.Token

/-! How tokens are spelled. White space may stand between tokens, and a name ends only where
something else begins; the scanner finds the one sequence of tokens that a line spells. -/
namespace BoundaryRules.Token

def IsMark (token : Token) : Prop := ∀ name, token ≠ .name name

/-- Neither white space nor the one character that some other token is written with. -/
def IsNameChar (c : Char) : Prop :=
  Unicode.isWhiteSpace c = false ∧ ∀ token : Token, token.IsMark → token.text ≠ String.singleton c

/-- A line that is written with the tokens. -/
inductive Spells : List Token → List Char → Prop where
  | nil : Spells [] []
  | space {tokens text} {c : Char} (hwhite : Unicode.isWhiteSpace c = true)
      (h : Spells tokens text) : Spells tokens (c :: text)
  | mark {tokens text} {token : Token} {c : Char} (hmark : token.IsMark)
      (htext : token.text = String.singleton c) (h : Spells tokens text) :
      Spells (token :: tokens) (c :: text)
  | name {tokens text} {name : String} (hne : name ≠ "") (hname : ∀ c ∈ name.toList, IsNameChar c)
      (hend : ∀ c ∈ text.head?, ¬ IsNameChar c) (h : Spells tokens text) :
      Spells (.name name :: tokens) (name.toList ++ text)

variable {token : Token} {tokens : List Token} {c : Char} {run text line : List Char}

theorem ofReserved?_eq_some_iff :
    ofReserved? c = some token ↔ token.IsMark ∧ token.text = String.singleton c := by
  constructor
  · intro h
    unfold ofReserved? at h
    split at h <;> cases h <;> exact ⟨nofun, by decide⟩
  · rintro ⟨hmark, htext⟩
    have hchars : token.text.toList = [c] := by rw [htext, String.toList_singleton]
    cases token with
    | name name => exact absurd rfl (hmark name)
    | operator action =>
      cases action <;> obtain rfl := List.singleton_inj.mp hchars <;> rfl
    | _ =>
      obtain rfl := List.singleton_inj.mp hchars
      rfl

theorem isNameChar_iff :
    IsNameChar c ↔ Unicode.isWhiteSpace c = false ∧ ofReserved? c = none := by
  refine and_congr_right fun _ => ?_
  rw [Option.eq_none_iff_forall_ne_some]
  refine forall_congr' fun token => ?_
  rw [Ne, Ne, ofReserved?_eq_some_iff, not_and]

instance : DecidablePred IsNameChar := fun _ => decidable_of_iff _ isNameChar_iff.symm

theorem ofReserved?_of_isWhiteSpace (h : Unicode.isWhiteSpace c = true) : ofReserved? c = none := by
  cases hc : ofReserved? c with
  | none => rfl
  | some token =>
    unfold ofReserved? at hc
    split at hc <;> cases hc <;> exact absurd h (by decide +kernel)

theorem isWhiteSpace_of_not_isNameChar (h : ¬ IsNameChar c) (hreserved : ofReserved? c = none) :
    Unicode.isWhiteSpace c = true := by
  rw [isNameChar_iff, not_and] at h
  exact (Bool.eq_false_or_eq_true _).resolve_right fun hnot => h hnot hreserved

/-- Name characters go on with the name. -/
theorem scanFrom_append (hname : ∀ c ∈ line, IsNameChar c) :
    scanFrom run (line ++ text) = scanFrom (line.reverse ++ run) text := by
  induction line generalizing run with
  | nil => rfl
  | cons c line ih =>
    obtain ⟨hc, hline⟩ := List.forall_mem_cons.mp hname
    obtain ⟨hwhite, hreserved⟩ := isNameChar_iff.mp hc
    rw [List.cons_append, scanFrom, hreserved, List.reverse_cons, List.append_assoc]
    simp only [hwhite, Bool.false_eq_true, if_false]
    exact ih hline

/-- Any other character ends it. -/
theorem scanFrom_of_not_isNameChar (hend : ∀ c ∈ text.head?, ¬ IsNameChar c) :
    scanFrom run text = finishName run (scanFrom [] text) := by
  cases text with
  | nil => rfl
  | cons c text =>
    rw [scanFrom, scanFrom]
    cases hreserved : ofReserved? c with
    | some token => rfl
    | none =>
      simp only [isWhiteSpace_of_not_isNameChar (hend c rfl) hreserved, if_true]
      rfl

/-- Any other character is a token of its own or none. -/
theorem scan_cons_of_not_isNameChar (h : ¬ IsNameChar c) (text : List Char) :
    scan (c :: text) = (ofReserved? c).toList ++ scan text := by
  rw [scan, scanFrom]
  cases hreserved : ofReserved? c with
  | some token => rfl
  | none =>
    simp only [isWhiteSpace_of_not_isNameChar h hreserved, if_true]
    rfl

theorem scan_name_append {name : String} (hne : name ≠ "") (hname : ∀ c ∈ name.toList, IsNameChar c)
    (hend : ∀ c ∈ text.head?, ¬ IsNameChar c) :
    scan (name.toList ++ text) = .name name :: scan text := by
  rw [scan, scanFrom_append hname, scanFrom_of_not_isNameChar hend, finishName]
  simp [hne, scan]

theorem scan_of_spells (h : Spells tokens line) : scan line = tokens := by
  induction h with
  | nil => rfl
  | @space tokens text c hwhite _ ih =>
    have hc : ¬ IsNameChar c := fun hc => Bool.false_ne_true (hc.1.symm.trans hwhite)
    rw [scan_cons_of_not_isNameChar hc, ofReserved?_of_isWhiteSpace hwhite, ih]
    rfl
  | @mark tokens text token c hmark htext _ ih =>
    have hc : ¬ IsNameChar c := fun hc => hc.2 token hmark htext
    rw [scan_cons_of_not_isNameChar hc, ofReserved?_eq_some_iff.mpr ⟨hmark, htext⟩, ih]
    rfl
  | name hne hname hend _ ih => rw [scan_name_append hne hname hend, ih]

theorem Spells.finishName (hrun : ∀ c ∈ run, IsNameChar c)
    (hend : ∀ c ∈ text.head?, ¬ IsNameChar c) (h : Spells tokens text) :
    Spells (finishName run tokens) (run.reverse ++ text) := by
  cases run with
  | nil => exact h
  | cons c run =>
    have hchars : ∀ d ∈ (String.ofList (c :: run).reverse).toList, IsNameChar d := by
      intro d hd
      rw [String.toList_ofList, List.mem_reverse] at hd
      exact hrun d hd
    have hname := Spells.name (by simp) hchars hend h
    rwa [String.toList_ofList] at hname

theorem spells_scanFrom (hrun : ∀ c ∈ run, IsNameChar c) (text : List Char) :
    Spells (scanFrom run text) (run.reverse ++ text) := by
  induction text generalizing run with
  | nil => exact .finishName hrun nofun .nil
  | cons c text ih =>
    have hrest := ih (List.forall_mem_nil _)
    by_cases hc : IsNameChar c
    · have hname := ih (List.forall_mem_cons.mpr ⟨hc, hrun⟩)
      obtain ⟨hwhite, hreserved⟩ := isNameChar_iff.mp hc
      rw [scanFrom, hreserved]
      simp only [hwhite, Bool.false_eq_true, if_false]
      rwa [List.reverse_cons, List.append_assoc] at hname
    · have hend : ∀ d ∈ (c :: text).head?, ¬ IsNameChar d := by
        rintro d hd
        rwa [← Option.some.inj hd]
      rw [scanFrom_of_not_isNameChar hend]
      refine .finishName hrun hend ?_
      rw [← scan, scan_cons_of_not_isNameChar hc]
      cases hreserved : ofReserved? c with
      | some token =>
        obtain ⟨hmark, htext⟩ := ofReserved?_eq_some_iff.mp hreserved
        exact .mark hmark htext hrest
      | none => exact .space (isWhiteSpace_of_not_isNameChar hc hreserved) hrest

/-- The scanner finds the tokens that the line spells. -/
theorem scan_eq_iff : scan line = tokens ↔ Spells tokens line := by
  constructor
  · rintro rfl
    exact spells_scanFrom (List.forall_mem_nil _) line
  · exact scan_of_spells

end BoundaryRules.Token
