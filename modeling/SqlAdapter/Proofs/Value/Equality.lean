import SqlAdapter.Value.Order

/-!
# Equal values

Which stored values a database takes for equal: a null, a text and a blob only themselves, a number every
number of its size. What is equal to a value that is no Boolean is equal among itself.
-/

set_option autoImplicit false

namespace SqlAdapter

namespace Value

variable {u v w : Value} {m n : Int}

theorem rank_of_scaled? (hv : v.scaled? = some n) : v.rank = 1 := by
  cases v <;> first | rfl | cases hv

theorem order_of_scaled? (hu : u.scaled? = some m) (hv : v.scaled? = some n) :
    u.order v = compare m n := by
  unfold order
  split
  · cases hu
  · cases hu
  · rw [hu, hv]

theorem rank_eq_of_order_eq (h : u.order v = .eq) : u.rank = v.rank := by
  unfold order at h
  split at h
  · rfl
  · rfl
  · split at h
    · next hu hv => rw [rank_of_scaled? hu, rank_of_scaled? hv]
    · exact Std.LawfulEqCmp.compare_eq_iff_eq.1 h

theorem eq_of_compareOfLessAndEq {α : Type} [LT α] [DecidableLT α] [DecidableEq α] {a b : α}
    (h : compareOfLessAndEq a b = .eq) : a = b := by
  unfold compareOfLessAndEq at h
  split at h
  · cases h
  · split at h
    · assumption
    · cases h

theorem order_self (v : Value) : v.order v = .eq := by
  cases hv : v.scaled? with
  | some n =>
    rw [order_of_scaled? hv hv]
    exact Std.LawfulEqCmp.compare_eq_iff_eq.2 rfl
  | none =>
    cases v with
    | null => rfl
    | bool b => rfl
    | text s => simp [order, compareOfLessAndEq]
    | blob bs => simp [order, compareOfLessAndEq]
    | int n => cases hv
    | float x => cases hv

theorem eq_of_order_eq (hv : v.rank ≠ 1) (h : u.order v = .eq) : u = v := by
  have hrank := rank_eq_of_order_eq h
  cases v with
  | null => cases u <;> simp [rank] at hrank ⊢
  | bool b => exact absurd rfl hv
  | int n => exact absurd rfl hv
  | float x => exact absurd rfl hv
  | text s =>
    cases u with
    | text t => rw [eq_of_compareOfLessAndEq h]
    | _ => simp [rank] at hrank
  | blob bs =>
    cases u with
    | blob cs => rw [eq_of_compareOfLessAndEq h]
    | _ => simp [rank] at hrank

/-- What is equal to a number is the same number, or a Boolean. -/
theorem order_eq_number_iff (hv : v.scaled? = some n) :
    u.order v = .eq ↔ u.scaled? = some n ∨ ∃ b, u = .bool b := by
  constructor
  · intro h
    have hrank := rank_eq_of_order_eq h
    rw [rank_of_scaled? hv] at hrank
    cases hu : u.scaled? with
    | some m =>
      rw [order_of_scaled? hu hv] at h
      rw [Std.LawfulEqCmp.compare_eq_iff_eq.1 h]
      exact .inl rfl
    | none =>
      cases u with
      | bool b => exact .inr ⟨b, rfl⟩
      | int k => cases hu
      | float x => cases hu
      | _ => simp [rank] at hrank
  · rintro (hu | ⟨b, rfl⟩)
    · rw [order_of_scaled? hu hv]
      exact Std.LawfulEqCmp.compare_eq_iff_eq.2 rfl
    · cases v <;> first | rfl | cases hv

/-- Two values that are equal to one that is no Boolean are equal. -/
theorem order_eq_of_order_eq (hv : ∀ b, v ≠ .bool b) (hu : u.order v = .eq) (hw : w.order v = .eq) :
    u.order w = .eq := by
  by_cases hrank : v.rank = 1
  · cases hn : v.scaled? with
    | none =>
      cases v with
      | bool b => exact absurd rfl (hv b)
      | int k => cases hn
      | float x => cases hn
      | _ => simp [rank] at hrank
    | some n =>
      rcases (order_eq_number_iff hn).1 hw with hw' | ⟨b, rfl⟩
      · rw [order_eq_number_iff hw']
        exact (order_eq_number_iff hn).1 hu
      · have hrank' := rank_eq_of_order_eq hu
        rw [rank_of_scaled? hn] at hrank'
        cases u <;> first | rfl | simp [rank] at hrank'
  · rw [eq_of_order_eq hrank hu, eq_of_order_eq hrank hw]
    exact order_self v

theorem stored_ne_bool (v : Value) (b : Bool) : v.stored ≠ .bool b := by
  cases v with
  | float x =>
    rw [stored_float]
    split <;> simp
  | _ => simp

end Value

/-- An equality holds between values that are equal and not null. -/
theorem Comparison.truth_eq_iff {v w : Value} :
    Comparison.truth .eq v w = .true ↔ v ≠ .null ∧ w ≠ .null ∧ v.order w = .eq := by
  unfold truth Value.unlessNull
  split
  · next hnull =>
    constructor
    · intro h
      cases h
    · rintro ⟨hv, hw, -⟩
      exact absurd hnull (not_or.2 ⟨hv, hw⟩)
  · next hnull =>
    obtain ⟨hv, hw⟩ := not_or.1 hnull
    cases ho : v.order w <;> simp [holds, Truth.ofBool, hv, hw]

end SqlAdapter
