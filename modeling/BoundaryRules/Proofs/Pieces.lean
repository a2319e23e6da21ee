import BoundaryRules.Scan

/-! Texts cut at chosen boundaries. Boundary `i` is the one before the character at position `i`;
a text is cut at those of the boundaries inside it that are chosen. -/
namespace BoundaryRules

variable {α : Type} {front piece text : List α} {ps qs : List (List α)} {cut cut' : Bool}
  {breaks breaks' : Nat → Bool} {i : Nat} {c : α}

/-- Puts what stands before a cut text in front of it: as a piece of its own, or as the beginning
of the first piece. -/
def attach (front : List α) (cut : Bool) : List (List α) → List (List α)
  | [] => [front]
  | piece :: more => if cut then front :: piece :: more else (front ++ piece) :: more

/-- The pieces of a text whose first character has position `i`. -/
def pieces (breaks : Nat → Bool) (i : Nat) : List α → List (List α)
  | [] => []
  | c :: text => attach [c] (breaks (i + 1)) (pieces breaks (i + 1) text)

theorem attach_ne_nil (front : List α) (cut : Bool) (ps : List (List α)) :
    attach front cut ps ≠ [] := by
  cases ps with
  | nil => simp [attach]
  | cons piece more => cases cut <;> simp [attach]

theorem attach_true_of_ne_nil (h : ps ≠ []) : attach front true ps = front :: ps := by
  cases ps with
  | nil => contradiction
  | cons piece more => rfl

/-- What goes on without a cut is one beginning. -/
theorem attach_false_attach (front next : List α) (cut : Bool) (ps : List (List α)) :
    attach front false (attach next cut ps) = attach (front ++ next) cut ps := by
  cases ps with
  | nil => rfl
  | cons piece more => cases cut <;> simp [attach]

@[simp] theorem flatten_attach (front : List α) (cut : Bool) (ps : List (List α)) :
    (attach front cut ps).flatten = front ++ ps.flatten := by
  cases ps with
  | nil => simp [attach]
  | cons piece more => cases cut <;> simp [attach]

@[simp] theorem flatten_pieces (breaks : Nat → Bool) (i : Nat) (text : List α) :
    (pieces breaks i text).flatten = text := by
  induction text generalizing i with
  | nil => rfl
  | cons c text ih => rw [pieces, flatten_attach, ih, List.singleton_append]

theorem pieces_eq_nil_iff : pieces breaks i text = [] ↔ text = [] := by
  cases text with
  | nil => simp [pieces]
  | cons c text => simp [pieces, attach_ne_nil]

theorem ne_nil_of_mem_attach (hfront : front ≠ []) (hps : ∀ piece ∈ ps, piece ≠ [])
    (h : piece ∈ attach front cut ps) : piece ≠ [] := by
  cases ps with
  | nil =>
    rw [attach, List.mem_singleton] at h
    exact h ▸ hfront
  | cons first more =>
    rw [attach] at h
    split at h <;> rcases List.mem_cons.mp h with rfl | h
    · exact hfront
    · exact hps piece h
    · simp [hfront]
    · exact hps piece (List.mem_cons_of_mem _ h)

theorem ne_nil_of_mem_pieces (h : piece ∈ pieces breaks i text) : piece ≠ [] := by
  induction text generalizing i piece with
  | nil => simp [pieces] at h
  | cons c text ih => exact ne_nil_of_mem_attach (by simp) (fun _ => ih) h

theorem attach_singleton_eq_iff (hps : ∀ piece ∈ ps, piece ≠ []) (hqs : ∀ piece ∈ qs, piece ≠ []) :
    attach [c] cut ps = attach [c] cut' qs ↔ ps = qs ∧ (ps ≠ [] → cut = cut') := by
  cases ps with
  | nil => cases qs with
    | nil => simp [attach]
    | cons q qs =>
      have hq := hqs q List.mem_cons_self
      cases cut' <;> simp [attach, Ne.symm hq]
  | cons p ps => cases qs with
    | nil =>
      have hp := hps p List.mem_cons_self
      cases cut <;> simp [attach, hp]
    | cons q qs =>
      have hp := hps p List.mem_cons_self
      have hq := hqs q List.mem_cons_self
      cases cut <;> cases cut' <;> simp [attach, hp, Ne.symm hq]

/-- Only the choice of the boundaries inside a text counts, and each of them does. -/
theorem pieces_eq_iff :
    pieces breaks i text = pieces breaks' i text ↔
      ∀ j, i < j → j < i + text.length → breaks j = breaks' j := by
  induction text generalizing i with
  | nil => simpa [pieces] using fun j hij hj => absurd hj (by omega)
  | cons c text ih =>
    rw [pieces, pieces, attach_singleton_eq_iff (fun _ => ne_nil_of_mem_pieces)
      (fun _ => ne_nil_of_mem_pieces), ih, Ne, pieces_eq_nil_iff, List.length_cons]
    constructor
    · rintro ⟨hrest, hfirst⟩ j hij hj
      rcases Nat.eq_or_lt_of_le (Nat.succ_le_of_lt hij) with rfl | hlt
      · exact hfirst (List.length_pos_iff.mp (by omega))
      · exact hrest j hlt (by omega)
    · intro h
      refine ⟨fun j hij hj => h j (by omega) (by omega), fun hne => h (i + 1) (by omega) ?_⟩
      have := List.length_pos_iff.mpr hne
      omega

/-- Positions may be counted from anywhere. -/
theorem pieces_add (breaks : Nat → Bool) (k : Nat) (text : List α) :
    pieces breaks (i + k) text = pieces (fun j => breaks (j + k)) i text := by
  induction text generalizing i with
  | nil => rfl
  | cons c text ih =>
    have hnext : i + k + 1 = i + 1 + k := by omega
    rw [pieces, pieces, hnext, ih]

theorem attach_append_of_ne_nil (h : ps ≠ []) :
    attach front cut (ps ++ qs) = attach front cut ps ++ qs := by
  cases ps with
  | nil => contradiction
  | cons piece more => cases cut <;> rfl

/-- A text that is cut between two parts has the pieces of both. -/
theorem pieces_append {s t : List α} (h : s ≠ [] → t ≠ [] → breaks (i + s.length) = true) :
    pieces breaks i (s ++ t) = pieces breaks i s ++ pieces breaks (i + s.length) t := by
  induction s generalizing i with
  | nil => rfl
  | cons c s ih =>
    have hlength : i + (c :: s).length = i + 1 + s.length := by
      rw [List.length_cons]
      omega
    rw [hlength] at h ⊢
    rw [List.cons_append, pieces, pieces, ih fun _ ht => h (List.cons_ne_nil _ _) ht]
    by_cases hs : s = []
    · subst hs
      by_cases ht : t = []
      · subst ht
        rfl
      · have hcut : breaks (i + 1) = true := h (List.cons_ne_nil _ _) ht
        rw [hcut]
        exact attach_true_of_ne_nil (mt pieces_eq_nil_iff.mp ht)
    · exact attach_append_of_ne_nil (mt pieces_eq_nil_iff.mp hs)

/-- The pieces of a text as segments, the first of them at `offset`. -/
def locate (offset : Nat) : List (List Char) → List Segment
  | [] => []
  | piece :: more => ⟨offset, String.ofList piece⟩ :: locate (offset + Utf8.length piece) more

theorem locate_ne_nil {offset : Nat} {ps : List (List Char)} (h : ps ≠ []) :
    locate offset ps ≠ [] := by
  cases ps with
  | nil => contradiction
  | cons piece more => exact List.cons_ne_nil _ _

theorem map_text_locate (offset : Nat) (ps : List (List Char)) :
    (locate offset ps).map (·.text) = ps.map String.ofList := by
  induction ps generalizing offset with
  | nil => rfl
  | cons piece more ih => rw [locate, List.map_cons, ih, List.map_cons]

end BoundaryRules
