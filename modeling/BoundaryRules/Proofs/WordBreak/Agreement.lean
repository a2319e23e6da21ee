import BoundaryRules.Proofs.Reading
import BoundaryRules.Proofs.WordBreak.Grammar

/-! How far the words of the bundled grammar are those that the word boundary rules define. They
differ at the boundaries where a rule is used unchecked, and where an ignored character stands
inside a context. -/
namespace BoundaryRules.WordBreak

variable {ruleset : Ruleset} {v w : WordBreak} {behind ahead : List Char} {c : Char}

/-- Only CR LF has a rule of its own next to line breaks, and no rule has ignored characters. -/
theorem rulesBetween_eq_nil :
    ∀ v w : WordBreak, v.isLineBreak || w.isLineBreak || w.isIgnored → ¬ (v = cr ∧ w = lf) →
      rulesBetween v w = [] := by
  decide +kernel

theorem joinsAsFiled_cr_lf (behind ahead : List WordBreak) : JoinsAsFiled cr lf behind ahead :=
  .inl (by decide +kernel)

theorem not_joinsAsFiled (behind ahead : List WordBreak)
    (h : v.isLineBreak || w.isLineBreak || w.isIgnored) (hne : ¬ (v = cr ∧ w = lf)) :
    ¬ JoinsAsFiled v w behind ahead := by
  simp [JoinsAsFiled, rulesBetween_eq_nil v w h hne]

theorem isIgnored_of_joinsAsFiled {behind ahead : List WordBreak}
    (h : JoinsAsFiled v w behind ahead) : w.isIgnored = false := by
  rw [← Bool.not_eq_true]
  intro hignored
  refine not_joinsAsFiled _ _ (by simp [hignored]) ?_ h
  rintro ⟨-, rfl⟩
  contradiction

theorem stateAfter_of_ne_absorb {state next : ClassId} {rule : CompiledRule}
    (h : rule.action ≠ .absorb) : Ruleset.stateAfter state next (some rule) = next :=
  if_neg h

theorem exists_selectFrom_of_effect (behind ahead : List Char) {key : BoundaryKey}
    {action : Action} {target : ClassId}
    (h : (ruleset.bucket key).map effect = [(action, target)]) :
    ∃ rule, ruleset.selectFrom behind ahead key = some rule ∧ rule.action = action ∧
      rule.target = target := by
  obtain ⟨rule, hbucket, heffect⟩ := List.map_eq_singleton_iff.mp h
  obtain ⟨haction, htarget⟩ := Prod.mk.inj heffect
  exact ⟨rule, Ruleset.selectFrom_of_singleton hbucket, haction, htarget⟩

/-- The rule selected between `v`, the state, and `w`, the class of the next character. -/
inductive Selected (v w : WordBreak) (behind ahead : List WordBreak) (rule : CompiledRule) : Prop
  | join (joins : JoinsAsFiled v w behind ahead) (action : rule.action = .join)
  | cut (joins : ¬ JoinsAsFiled v w behind ahead) (kept : (w.isIgnored && !v.isLineBreak) = false)
      (action : rule.action = .cut)
  | absorb (joins : ¬ JoinsAsFiled v w behind ahead)
      (deleted : (w.isIgnored && !v.isLineBreak) = true)
      (action : rule.action = .absorb) (target : rule.target = .any)

/-- The rule found under the keys with a wildcard: an ignored character is absorbed unless it stands
after a line break, and before all else a word ends. -/
theorem exists_wildcard_rule (hfiled : Filed ruleset) (v w : WordBreak)
    (behind ahead : List Char) :
    ∃ rule, [⟨v.classId, .any⟩, ⟨.any, w.classId⟩, ⟨.any, .any⟩].findSome?
        (ruleset.selectFrom behind ahead) = some rule ∧
      if w.isIgnored && !v.isLineBreak then rule.action = .absorb ∧ rule.target = .any
      else rule.action = .cut := by
  have hbefore := hfiled.before_any v
  have hafter := hfiled.any_after w
  rw [List.findSome?_cons]
  cases hv : v.isLineBreak with
  | true =>
    rw [hv, if_pos rfl] at hbefore
    obtain ⟨rule, hrule, haction, -⟩ := exists_selectFrom_of_effect behind ahead hbefore
    exact ⟨rule, by rw [hrule], by simpa using haction⟩
  | false =>
    rw [hv, if_neg Bool.false_ne_true, List.map_eq_nil_iff] at hbefore
    rw [Ruleset.selectFrom_of_nil hbefore, List.findSome?_cons]
    cases hw : w.isLineBreak with
    | true =>
      rw [hw, if_pos rfl] at hafter
      obtain ⟨rule, hrule, haction, -⟩ := exists_selectFrom_of_effect behind ahead hafter
      exact ⟨rule, by rw [hrule], by simpa [isIgnored_of_isLineBreak hw] using haction⟩
    | false =>
      rw [hw, if_neg Bool.false_ne_true] at hafter
      cases hignored : w.isIgnored with
      | true =>
        rw [hignored, if_pos rfl] at hafter
        obtain ⟨rule, hrule, heffect⟩ := exists_selectFrom_of_effect behind ahead hafter
        exact ⟨rule, by rw [hrule], heffect⟩
      | false =>
        rw [hignored, if_neg Bool.false_ne_true, List.map_eq_nil_iff] at hafter
        obtain ⟨rule, hrule, haction, -⟩ :=
          exists_selectFrom_of_effect behind ahead hfiled.any_any
        refine ⟨rule, ?_, haction⟩
        rw [Ruleset.selectFrom_of_nil hafter, List.findSome?_cons, hrule]

section Filed

variable (hfiled : Filed ruleset) (hclass : ∀ c, ruleset.classes.classOf c = (ofChar c).classId)
include hfiled hclass

theorem exists_selected (v : WordBreak) (c : Char) (behind ahead : List Char) :
    ∃ rule, ruleset.select behind (c :: ahead) v.classId = some rule ∧
      Selected v (ofChar c) (behind.map ofChar) ((c :: ahead).map ofChar) rule := by
  have hnext : ruleset.nextClass (c :: ahead) = (ofChar c).classId := hclass c
  generalize ofChar c = w at hnext
  have hpair : ruleset.selectFrom behind (c :: ahead) ⟨v.classId, w.classId⟩ = none ↔ _ :=
    selectFrom_pair_eq_none_iff hfiled hclass
  rw [Ruleset.select, hnext, Ruleset.tiers, List.findSome?_cons]
  cases hfirst : ruleset.selectFrom behind (c :: ahead) ⟨v.classId, w.classId⟩ with
  | some rule =>
    refine ⟨rule, rfl, .join ?_ (action_of_selectFrom_pair hfiled hfirst)⟩
    by_contra hnot
    rw [hpair.mpr hnot] at hfirst
    contradiction
  | none =>
    have hnot := hpair.mp hfirst
    obtain ⟨rule, hrule, heffect⟩ := exists_wildcard_rule hfiled v w behind (c :: ahead)
    refine ⟨rule, hrule, ?_⟩
    split at heffect
    next hdeleted => exact .absorb hnot hdeleted heffect.1 heffect.2
    next hkept => exact .cut hnot (Bool.eq_false_iff.mpr hkept) heffect

/-- The first character is passed by the rule for the start of the text. -/
theorem exists_select_start (c : Char) (ahead : List Char) :
    ∃ rule, ruleset.select [] (c :: ahead) .start = some rule ∧ rule.action = .cut := by
  have hnext : ruleset.nextClass (c :: ahead) = (ofChar c).classId := hclass c
  obtain ⟨rule, hrule, haction, -⟩ :=
    exists_selectFrom_of_effect [] (c :: ahead) hfiled.start_any
  refine ⟨rule, ?_, haction⟩
  simp only [Ruleset.select, hnext, Ruleset.tiers, List.findSome?_cons,
    Ruleset.selectFrom_of_nil (hfiled.start_after (ofChar c)), hrule]

/-- A scan is in the state of the nearest class that is left. -/
theorem exists_stateAt_eq (text : List Char) {i : Nat} (hpos : 0 < i) (hle : i ≤ text.length) :
    ∃ v, (before (text.map ofChar) i).head? = some v ∧ ruleset.stateAt text i = v.classId := by
  induction i with
  | zero => contradiction
  | succ i ih =>
    have hlt : i < text.length := by omega
    have hw : (text.map ofChar)[i]? = some (ofChar text[i]) := by simp [hlt]
    have hnext : ruleset.nextClass (text[i] :: text.drop (i + 1)) = (ofChar text[i]).classId :=
      hclass _
    rw [Ruleset.stateAt_succ, Ruleset.ruleAt, List.drop_eq_getElem_cons hlt, hnext, before_succ hw]
    rcases Nat.eq_zero_or_pos i with rfl | hi
    · obtain ⟨rule, hrule, haction⟩ :=
        exists_select_start hfiled hclass text[0] (text.drop (0 + 1))
      refine ⟨ofChar text[0], by simp, ?_⟩
      change Ruleset.stateAfter _ _ (ruleset.select [] _ .start) = _
      rw [hrule, stateAfter_of_ne_absorb (by simp [haction])]
    · obtain ⟨v, hv, hstate⟩ := ih hi (by omega)
      have hlength : i ≤ (text.map ofChar).length := by
        rw [List.length_map]
        omega
      obtain ⟨u, v', hu, hv', -, hline⟩ := exists_head?_before hi hlength
      obtain rfl := Option.some.inj (hv.symm.trans hv')
      obtain ⟨rule, hrule, hselected⟩ :=
        exists_selected hfiled hclass v text[i] (text.take i).reverse (text.drop (i + 1))
      rw [hstate, hrule, hu, Option.any_some, ← hline]
      cases hselected with
      | join hjoins haction =>
        refine ⟨ofChar text[i], ?_, stateAfter_of_ne_absorb (by simp [haction])⟩
        rw [isIgnored_of_joinsAsFiled hjoins, Bool.false_and]
        rfl
      | cut _ hkept haction =>
        refine ⟨ofChar text[i], ?_, stateAfter_of_ne_absorb (by simp [haction])⟩
        rw [hkept]
        rfl
      | absorb _ hdeleted haction htarget =>
        refine ⟨v, ?_, ?_⟩
        · rw [hdeleted]
          exact hv
        · rw [Ruleset.stateAfter, if_pos haction, if_pos htarget]

/-- Where a scan goes on: a rule joins, or an ignored character is absorbed. -/
theorem breaksAt_eq_false_iff_of_filed {text : List Char} {i : Nat} {u v w : WordBreak}
    (h : Interior (text.map ofChar) i u v w) (hpos : 0 < i) (hlt : i < text.length) :
    ruleset.breaksAt text i = false ↔
      JoinsAsFiled v w ((text.map ofChar).take i).reverse ((text.map ofChar).drop i) ∨
        (w.isIgnored && !v.isLineBreak) = true := by
  obtain ⟨v', hv', hstate⟩ := exists_stateAt_eq hfiled hclass text hpos (Nat.le_of_lt hlt)
  obtain rfl := Option.some.inj (h.nearest.symm.trans hv')
  have hw : ofChar text[i] = w := by simpa [hlt] using h.next
  obtain ⟨rule, hrule, hselected⟩ :=
    exists_selected hfiled hclass v text[i] (text.take i).reverse (text.drop (i + 1))
  rw [hw, ← List.drop_eq_getElem_cons hlt, List.map_reverse, List.map_take,
    List.map_drop] at hselected
  rw [Ruleset.breaksAt, Ruleset.ruleAt, hstate, List.drop_eq_getElem_cons hlt, hrule]
  cases hselected with
  | join hjoins haction => simp [haction, hjoins]
  | cut hnot hkept haction => simp [haction, hnot, hkept]
  | absorb hnot hdeleted haction htarget => simp [haction, hdeleted]

/-- No rule of the grammar takes a character for the end of the text. -/
theorem haltsAt_eq_false_of_filed {text : List Char} {i : Nat} (hlt : i < text.length) :
    ruleset.haltsAt text i = false := by
  rw [Ruleset.haltsAt, Ruleset.ruleAt, List.drop_eq_getElem_cons hlt]
  rcases Nat.eq_zero_or_pos i with rfl | hpos
  · obtain ⟨rule, hrule, haction⟩ := exists_select_start hfiled hclass text[0] (text.drop (0 + 1))
    change (ruleset.select [] _ .start).any _ = false
    rw [hrule]
    simp [haction]
  · obtain ⟨v, -, hstate⟩ := exists_stateAt_eq hfiled hclass text hpos (Nat.le_of_lt hlt)
    obtain ⟨rule, hrule, hselected⟩ :=
      exists_selected hfiled hclass v text[i] (text.take i).reverse (text.drop (i + 1))
    rw [hstate, hrule]
    have hne : ClassId.any ≠ .stop := by decide
    cases hselected with
    | join _ haction => simp [haction]
    | cut _ _ haction => simp [haction]
    | absorb _ _ _ htarget => simp [htarget, hne]

theorem words_eq_of_filed (text : List Char) :
    ruleset.words text = (pieces (ruleset.breaksAt text) 0 text).map String.ofList := by
  have hne : ∀ w : WordBreak, w.classId ≠ .start ∧ w.classId ≠ .stop ∧ w.classId ≠ .any := by
    decide
  rw [Ruleset.words, Ruleset.segments_eq_locate (fun c => hclass c ▸ hne _)
    fun i hlt => haltsAt_eq_false_of_filed hfiled hclass hlt, map_text_locate]

end Filed

/-- Where the grammar and the rules disagree. Past line breaks and ignored characters there is a
boundary at which a rule that is alone with its two classes joins without the rest of its contexts,
or at which one of several joins only once ignored characters are deleted. -/
def Deviates (text : List WordBreak) (i : Nat) : Prop :=
  ∃ v w, (before text i).head? = some v ∧ text[i]? = some w ∧
    v.isLineBreak = false ∧ w.isLineBreak = false ∧ w.isIgnored = false ∧
    if (rulesBetween v w).length = 1 then joins (before text i) (after text i) = false
    else joins (before text i) (after text i) = true ∧
      joins (text.take i).reverse (text.drop i) = false

theorem Interior.deviates_iff {text : List WordBreak} {i : Nat} {u v w : WordBreak}
    (h : Interior text i u v w) :
    Deviates text i ↔
      v.isLineBreak = false ∧ w.isLineBreak = false ∧ w.isIgnored = false ∧
        if (rulesBetween v w).length = 1 then joins (before text i) (after text i) = false
        else joins (before text i) (after text i) = true ∧
          joins (text.take i).reverse (text.drop i) = false := by
  constructor
  · rintro ⟨v', w', hv, hw, hdeviates⟩
    obtain rfl := Option.some.inj (h.nearest.symm.trans hv)
    obtain rfl := Option.some.inj (h.next.symm.trans hw)
    exact hdeviates
  · exact fun hdeviates => ⟨v, w, h.nearest, h.next, hdeviates⟩

private theorem eq_iff_eq_false_iff {a b : Bool} : a = b ↔ (a = false ↔ b = false) := by
  cases a <;> cases b <;> simp

/-- Next to line breaks and before ignored characters the grammar follows the rules. -/
theorem breaksAt_eq_of_not_open (hfiled : Filed ruleset)
    (hclass : ∀ c, ruleset.classes.classOf c = (ofChar c).classId) {text : List Char} {i : Nat}
    {u v w : WordBreak} (h : Interior (text.map ofChar) i u v w) (hpos : 0 < i)
    (hlt : i < text.length) (hclosed : v.isLineBreak || w.isLineBreak || w.isIgnored) :
    ruleset.breaksAt text i = breaksAt (text.map ofChar) i := by
  rw [eq_iff_eq_false_iff, breaksAt_eq_false_iff_of_filed hfiled hclass h hpos hlt,
    h.breaksAt_eq_false_iff]
  by_cases hcrlf : v = cr ∧ w = lf
  · obtain ⟨rfl, rfl⟩ := hcrlf
    exact iff_of_true (.inl (joinsAsFiled_cr_lf _ _)) (.inl ⟨rfl, rfl⟩)
  · have hnot := not_joinsAsFiled ((text.map ofChar).take i).reverse ((text.map ofChar).drop i)
      hclosed hcrlf
    have hignored := isIgnored_of_isLineBreak (w := w)
    simp only [hnot, hcrlf, false_or, Bool.and_eq_true, Bool.not_eq_true']
    cases hv : v.isLineBreak <;> cases hw : w.isLineBreak <;> simp_all

theorem breaksAt_eq_iff (hfiled : Filed ruleset)
    (hclass : ∀ c, ruleset.classes.classOf c = (ofChar c).classId) {text : List Char} {i : Nat}
    (hpos : 0 < i) (hlt : i < text.length) :
    ruleset.breaksAt text i = breaksAt (text.map ofChar) i ↔ ¬ Deviates (text.map ofChar) i := by
  obtain ⟨u, v, w, h⟩ : ∃ u v w, Interior (text.map ofChar) i u v w :=
    exists_interior hpos (by simpa using hlt)
  rw [h.deviates_iff]
  by_cases hclosed : v.isLineBreak || w.isLineBreak || w.isIgnored
  · have hnot : ¬ (v.isLineBreak = false ∧ w.isLineBreak = false ∧ w.isIgnored = false) := by
      rintro ⟨hv, hw, hignored⟩
      simp [hv, hw, hignored] at hclosed
    refine iff_of_true (breaksAt_eq_of_not_open hfiled hclass h hpos hlt hclosed) ?_
    exact fun hdeviates => hnot ⟨hdeviates.1, hdeviates.2.1, hdeviates.2.2.1⟩
  · simp only [Bool.or_eq_true, not_or, Bool.not_eq_true] at hclosed
    obtain ⟨⟨hv, hw⟩, hignored⟩ := hclosed
    have hcrlf : ¬ (v = cr ∧ w = lf) := by
      rintro ⟨rfl, -⟩
      contradiction
    have hmore := h.joins_of_joins hv
    rw [eq_iff_eq_false_iff, breaksAt_eq_false_iff_of_filed hfiled hclass h hpos hlt,
      h.breaksAt_eq_false_iff, JoinsAsFiled, ← h.joins_take_drop_iff hv]
    simp only [hv, hw, hignored, hcrlf, true_and, false_or, Bool.false_and, Bool.false_eq_true,
      or_false]
    by_cases hone : (rulesBetween v w).length = 1
    · simp [hone]
    · cases hjoins : joins (before (text.map ofChar) i) (after (text.map ofChar) i) with
      | true => simp [hone]
      | false => simpa [hone, hjoins] using hmore

/-- The words of the bundled grammar are those between the boundaries that the rules define just if
the grammar deviates at no boundary of the text. -/
theorem words_eq_iff (text : List Char) :
    Bundled.ruleset.words text =
        (pieces (breaksAt (text.map ofChar)) 0 text).map String.ofList ↔
      ∀ i, 0 < i → i < text.length → ¬ Deviates (text.map ofChar) i := by
  rw [words_eq_of_filed filed_bundled classOf_eq,
    List.map_inj_right fun _ _ => String.ofList_inj.mp, pieces_eq_iff]
  apply forall_congr'
  intro i
  apply imp_congr_right
  intro hpos
  rw [Nat.zero_add]
  apply imp_congr_right
  intro hlt
  exact breaksAt_eq_iff filed_bundled classOf_eq hpos hlt

/-- A comma stays with the digit before it, whatever comes after: WB12 is alone between the two. -/
theorem words_ne_of_lone_rule :
    Bundled.ruleset.words ['3', ','] ≠
      (pieces (breaksAt (['3', ','].map ofChar)) 0 ['3', ',']).map String.ofList := by
  have hclasses : ['3', ','].map ofChar = [numeric, midNum] := by decide +kernel
  have hdeviates : Deviates (['3', ','].map ofChar) 1 := by
    rw [hclasses]
    exact ⟨numeric, midNum, rfl, rfl, rfl, rfl, rfl, by decide +kernel⟩
  rw [words_eq_of_filed filed_bundled classOf_eq, Ne,
    List.map_inj_right fun _ _ => String.ofList_inj.mp, pieces_eq_iff]
  intro h
  have hagree := h 1 (by decide) (by decide)
  exact (breaksAt_eq_iff filed_bundled classOf_eq (by decide) (by decide)).mp hagree hdeviates

end BoundaryRules.WordBreak
