import Mathlib.Data.List.Forall2

/-! Steps that may fail, one after the other and over lists. -/
namespace BoundaryRules

variable {ε ε' α β : Type}

@[simp] theorem ok_bind (a : α) (f : α → Except ε β) : (Except.ok a >>= f) = f a := rfl

@[simp] theorem error_bind (fault : ε) (f : α → Except ε β) :
    ((Except.error fault : Except ε α) >>= f) = .error fault := rfl

/-- Two steps succeed just if the first does and then the second. -/
theorem bind_eq_ok_iff {x : Except ε α} {f : α → Except ε β} {b : β} :
    x >>= f = .ok b ↔ ∃ a, x = .ok a ∧ f a = .ok b := by
  cases x with
  | error fault => simp
  | ok a => simp

theorem bind_eq_error_iff {x : Except ε α} {f : α → Except ε β} {fault : ε} :
    x >>= f = .error fault ↔ x = .error fault ∨ ∃ a, x = .ok a ∧ f a = .error fault := by
  cases x with
  | error cause => simp
  | ok a => simp

theorem mapError_eq_ok_iff {f : ε → ε'} {x : Except ε α} {a : α} :
    x.mapError f = .ok a ↔ x = .ok a := by
  cases x <;> simp [Except.mapError]

theorem mapError_eq_error_iff {f : ε → ε'} {x : Except ε α} {fault : ε'} :
    x.mapError f = .error fault ↔ ∃ cause, x = .error cause ∧ f cause = fault := by
  cases x <;> simp [Except.mapError]

theorem mapError_bind (f : ε → ε') (x : Except ε α) (g : α → Except ε β) :
    (x >>= g).mapError f = x.mapError f >>= fun a => (g a).mapError f := by
  cases x <;> rfl

theorem map_eq_ok_iff {f : α → β} {x : Except ε α} {b : β} :
    x.map f = .ok b ↔ ∃ a, x = .ok a ∧ f a = b := by
  cases x <;> simp [Except.map]

theorem map_eq_error_iff {f : α → β} {x : Except ε α} {fault : ε} :
    x.map f = .error fault ↔ x = .error fault := by
  cases x <;> simp [Except.map]

/-- A step over a list succeeds just if it does for each element, with the results in order. -/
theorem mapM_eq_ok_iff {f : α → Except ε β} {as : List α} {bs : List β} :
    as.mapM f = .ok bs ↔ List.Forall₂ (fun a b => f a = .ok b) as bs := by
  induction as generalizing bs with
  | nil =>
    rw [List.mapM_nil, List.forall₂_nil_left_iff]
    exact ⟨fun h => (Except.ok.inj h).symm, fun h => congrArg Except.ok h.symm⟩
  | cons a as ih =>
    rw [List.mapM_cons, List.forall₂_cons_left_iff]
    cases ha : f a with
    | error fault => simp
    | ok b =>
      rw [ok_bind]
      cases has : as.mapM f with
      | error fault =>
        have hnone : ∀ more, ¬ List.Forall₂ (fun a b => f a = .ok b) as more := by
          intro more h
          rw [← ih, has] at h
          contradiction
        simp [hnone]
      | ok more =>
        have hmore : ∀ others, List.Forall₂ (fun a b => f a = .ok b) as others ↔ others = more := by
          intro others
          rw [← ih, has, Except.ok.injEq, eq_comm]
        simp only [hmore, ok_bind, Except.ok.injEq]
        constructor
        · intro h
          exact ⟨b, more, rfl, rfl, (Except.ok.inj h).symm⟩
        · rintro ⟨_, _, rfl, rfl, rfl⟩
          rfl

/-- A step over a list fails with the fault of the first element for which it does. -/
theorem mapM_eq_error_iff {f : α → Except ε β} {as : List α} {fault : ε} :
    as.mapM f = .error fault ↔ ∃ front a rest, as = front ++ a :: rest ∧
      (∀ former ∈ front, ∃ b, f former = .ok b) ∧ f a = .error fault := by
  induction as with
  | nil =>
    refine ⟨nofun, ?_⟩
    rintro ⟨front, a, rest, hsplit, -⟩
    simp at hsplit
  | cons a as ih =>
    rw [List.mapM_cons]
    constructor
    · intro h
      rcases bind_eq_error_iff.mp h with ha | ⟨b, hb, h⟩
      · exact ⟨[], a, as, rfl, List.forall_mem_nil _, ha⟩
      · have has : as.mapM f = .error fault := by
          rcases bind_eq_error_iff.mp h with has | ⟨more, -, h⟩
          · exact has
          · cases h
        obtain ⟨front, other, rest, rfl, hfront, hother⟩ := ih.mp has
        exact ⟨a :: front, other, rest, rfl, List.forall_mem_cons.mpr ⟨⟨b, hb⟩, hfront⟩, hother⟩
    · rintro ⟨front, other, rest, hsplit, hfront, hother⟩
      cases front with
      | nil =>
        obtain ⟨rfl, rfl⟩ := List.cons_eq_cons.mp hsplit
        rw [hother, error_bind]
      | cons former front =>
        obtain ⟨rfl, rfl⟩ := List.cons_eq_cons.mp hsplit
        obtain ⟨⟨b, hb⟩, hfront⟩ := List.forall_mem_cons.mp hfront
        rw [hb, ok_bind, ih.mpr ⟨front, other, rest, rfl, hfront, hother⟩, error_bind]

/-- Each result is that of some element. -/
theorem exists_mem_of_forall₂ {R : α → β → Prop} {as : List α} {bs : List β} {b : β}
    (h : List.Forall₂ R as bs) (hb : b ∈ bs) : ∃ a ∈ as, R a b := by
  induction h with
  | nil => contradiction
  | cons hab _ ih =>
    rcases List.mem_cons.mp hb with rfl | hb
    · exact ⟨_, List.mem_cons_self, hab⟩
    · obtain ⟨a, ha, hR⟩ := ih hb
      exact ⟨a, List.mem_cons_of_mem _ ha, hR⟩

/-- A result stands in the position of its element. -/
theorem exists_getElem?_of_forall₂ {R : α → β → Prop} {as : List α} {bs : List β} {b : β} {i : Nat}
    (h : List.Forall₂ R as bs) (hb : bs[i]? = some b) : ∃ a, as[i]? = some a ∧ R a b := by
  induction h generalizing i with
  | nil => simp at hb
  | cons hab _ ih =>
    cases i with
    | zero =>
      obtain rfl := Option.some.inj hb
      exact ⟨_, rfl, hab⟩
    | succ i => exact ih hb

/-- Elements left out are missing among the results. -/
theorem mapM_filter_eq_ok {f : α → Except ε β} {p : α → Bool} {q : β → Bool} {as : List α}
    {bs : List β} (h : as.mapM f = .ok bs) (hpq : ∀ a b, f a = .ok b → p a = q b) :
    (as.filter p).mapM f = .ok (bs.filter q) := by
  rw [mapM_eq_ok_iff] at h ⊢
  induction h with
  | nil => exact .nil
  | @cons a b as bs hab _ ih =>
    rw [List.filter_cons, List.filter_cons, hpq a b hab]
    split
    · exact .cons hab ih
    · exact ih

/-- It succeeds just if it does for each element. -/
theorem exists_mapM_eq_ok_iff {f : α → Except ε β} {as : List α} :
    (∃ bs, as.mapM f = .ok bs) ↔ ∀ a ∈ as, ∃ b, f a = .ok b := by
  simp only [mapM_eq_ok_iff]
  constructor
  · rintro ⟨bs, h⟩ a ha
    induction h with
    | nil => contradiction
    | cons hab _ ih =>
      rcases List.mem_cons.mp ha with rfl | ha
      · exact ⟨_, hab⟩
      · exact ih ha
  · intro h
    induction as with
    | nil => exact ⟨[], .nil⟩
    | cons a as ih =>
      obtain ⟨b, hb⟩ := h a List.mem_cons_self
      obtain ⟨bs, hbs⟩ := ih fun a ha => h a (List.mem_cons_of_mem _ ha)
      exact ⟨b :: bs, .cons hb hbs⟩

end BoundaryRules
