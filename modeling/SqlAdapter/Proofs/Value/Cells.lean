import SqlAdapter.Proofs.Value.Equality

/-!
# Values in storage classes

What becomes of a value that is bound, kept by a database and read back. `Keeps` says what is assumed of
another database than the one of this library.

Main statement: every database that keeps cells as assumed gives back the stored value.
-/

set_option autoImplicit false

namespace SqlAdapter

namespace Cell

/-- What is assumed of a database in which a bound cell is selected as it is: class and content stay, but a
NaN becomes null. -/
structure Keeps (keep : Cell → Cell) : Prop where
  nan : ∀ x : Binary64, x.isNaN = true → keep (real x) = null
  same : ∀ c : Cell, (∀ x, c = real x → x.isNaN = false) → keep c = c

theorem keeps_kept : Keeps kept where
  nan x h := by simp [kept, h]
  same c h := by
    cases c with
    | real x => simp [kept, h x rfl]
    | _ => rfl

variable {keep : Cell → Cell}

theorem read?_kept_cell (v : Value) : v.cell.kept.read? = some v.stored := by
  cases v with
  | float x =>
    rw [Value.stored_float, Value.cell, kept]
    split <;> rfl
  | _ => rfl

theorem Keeps.eq_kept (h : Keeps keep) (c : Cell) : keep c = c.kept := by
  cases c with
  | real x =>
    cases hx : x.isNaN with
    | true => rw [h.nan x hx, kept, if_pos hx]
    | false =>
      rw [kept, if_neg (by simp [hx])]
      exact h.same _ (by rintro y ⟨⟩; exact hx)
  | _ => exact h.same _ (by simp)

theorem Keeps.read?_keep (h : Keeps keep) (v : Value) : (keep v.cell).read? = some v.stored := by
  rw [h.eq_kept, read?_kept_cell]

end Cell

/-- How a value comes back from a database: a Boolean as an integer, a NaN as null, any other value as it
was. -/
inductive Value.ReadsBack : Value → Value → Prop where
  | bool (b : Bool) : ReadsBack (.bool b) (.int (if b then 1 else 0))
  | nan {x : Binary64} (h : x.isNaN = true) : ReadsBack (.float x) .null
  | same {v : Value} (hbool : ∀ b, v ≠ .bool b) (hnan : ∀ x, v = .float x → x.isNaN = false) :
      ReadsBack v v

namespace Value

theorem readsBack_iff {v w : Value} : v.ReadsBack w ↔ w = v.stored := by
  constructor
  · intro h
    cases h with
    | bool b => rfl
    | nan h => simp [h]
    | same hbool hnan =>
      cases v with
      | bool b => exact absurd rfl (hbool b)
      | float x => simp [hnan x rfl]
      | _ => rfl
  · rintro rfl
    cases v with
    | bool b => exact .bool b
    | float x =>
      cases h : x.isNaN with
      | true => simpa [h] using ReadsBack.nan h
      | false =>
        have hsame : (float x).ReadsBack (float x) := .same (by simp) (by rintro y ⟨⟩; exact h)
        simpa [h] using hsame
    | _ => exact .same (by simp) (by simp)

end Value

end SqlAdapter
