import BoundaryRules.Files.Path

/-! The order of paths is a total order of their components. -/
namespace BoundaryRules.Path

namespace Component

variable {a b c : Component}

theorem le_total (a b : Component) : (a.le b || b.le a) = true := by
  cases a <;> cases b <;> simp [le, String.le_total]

theorem le_trans (hab : a.le b = true) (hbc : b.le c = true) : a.le c = true := by
  cases a <;> cases b <;> cases c <;> simp_all [le]
  exact String.le_trans hab hbc

theorem le_antisymm (hab : a.le b = true) (hba : b.le a = true) : a = b := by
  cases a <;> cases b <;> simp_all [le]
  exact String.le_antisymm hab hba

end Component

variable {p q r : List Component} {a b : Component}

theorem componentsLe_cons :
    componentsLe (a :: p) (b :: q) = true ↔
      a = b ∧ componentsLe p q = true ∨ a ≠ b ∧ a.le b = true := by
  rw [componentsLe]
  by_cases h : a = b <;> simp [h]

theorem componentsLe_total (p q : List Component) :
    (componentsLe p q || componentsLe q p) = true := by
  induction p generalizing q with
  | nil => simp [componentsLe]
  | cons a p ih =>
    cases q with
    | nil => simp [componentsLe]
    | cons b q =>
      by_cases h : a = b
      · simpa [componentsLe, h] using ih q
      · simpa [componentsLe, h, Ne.symm h] using a.le_total b

theorem componentsLe_trans (hpq : componentsLe p q = true) (hqr : componentsLe q r = true) :
    componentsLe p r = true := by
  induction p generalizing q r with
  | nil => simp [componentsLe]
  | cons a p ih =>
    cases q with
    | nil => cases hpq
    | cons b q =>
      cases r with
      | nil => cases hqr
      | cons c r =>
        rw [componentsLe_cons] at hpq hqr ⊢
        rcases hpq with ⟨rfl, hpq⟩ | ⟨hne, hab⟩
        · rcases hqr with ⟨rfl, hqr⟩ | hac
          · exact .inl ⟨rfl, ih hpq hqr⟩
          · exact .inr hac
        · rcases hqr with ⟨rfl, -⟩ | ⟨-, hbc⟩
          · exact .inr ⟨hne, hab⟩
          · refine .inr ⟨?_, Component.le_trans hab hbc⟩
            rintro rfl
            exact hne (Component.le_antisymm hab hbc)

theorem componentsLe_antisymm (hpq : componentsLe p q = true) (hqp : componentsLe q p = true) :
    p = q := by
  induction p generalizing q with
  | nil =>
    cases q with
    | nil => rfl
    | cons b q => cases hqp
  | cons a p ih =>
    cases q with
    | nil => cases hpq
    | cons b q =>
      rw [componentsLe_cons] at hpq hqp
      rcases hpq with ⟨rfl, hpq⟩ | ⟨hne, hab⟩
      · rcases hqp with ⟨-, hqp⟩ | ⟨hne, -⟩
        · rw [ih hpq hqp]
        · exact absurd rfl hne
      · rcases hqp with ⟨rfl, -⟩ | ⟨-, hba⟩
        · exact absurd rfl hne
        · exact absurd (Component.le_antisymm hab hba) hne

section Texts

variable {path other next : String}

theorem same_iff : same path other = true ↔ components path = components other := by
  simp [same]

theorem le_total (path other : String) : (le path other || le other path) = true :=
  componentsLe_total _ _

theorem le_trans (path other next : String) (h : le path other = true)
    (hnext : le other next = true) : le path next = true :=
  componentsLe_trans h hnext

/-- One path comes before another one, which is not the same. -/
def Before (path other : String) : Prop := le path other = true ∧ same path other = false

theorem Before.trans_le (h : Before path other) (hnext : le other next = true) :
    Before path next := by
  refine ⟨le_trans _ _ _ h.1 hnext, Bool.eq_false_iff.mpr fun hsame => ?_⟩
  rw [same_iff] at hsame
  have hback : components path = components other :=
    componentsLe_antisymm h.1 (by rw [hsame]; exact hnext)
  exact Bool.eq_false_iff.mp h.2 (same_iff.mpr hback)

end Texts

end BoundaryRules.Path
