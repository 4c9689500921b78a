import SqlAdapter.Truth

/-!
# Formulas

Atoms combined by AND, OR and NOT. A formula is read in three ways: by its truth under a valuation of
the atoms, by its atoms from left to right, and by mapping every atom.
-/

set_option autoImplicit false

namespace SqlAdapter

inductive Formula (α : Type) where
  | atom (a : α)
  | and (l r : Formula α)
  | or (l r : Formula α)
  | not (f : Formula α)
  deriving DecidableEq

namespace Formula

variable {α β : Type}

def truth (value : α → Truth) : Formula α → Truth
  | atom a => value a
  | and l r => (l.truth value).and (r.truth value)
  | or l r => (l.truth value).or (r.truth value)
  | not f => (f.truth value).not

def map (g : α → β) : Formula α → Formula β
  | atom a => atom (g a)
  | and l r => and (l.map g) (r.map g)
  | or l r => or (l.map g) (r.map g)
  | not f => not (f.map g)

/-- The atoms from left to right. -/
def atoms : Formula α → List α
  | atom a => [a]
  | and l r => l.atoms ++ r.atoms
  | or l r => l.atoms ++ r.atoms
  | not f => f.atoms

/-- Whether two formulas have the same shape and atoms that agree pairwise. -/
def agree (eq : α → β → Bool) : Formula α → Formula β → Bool
  | atom a, atom b => eq a b
  | and l r, and l' r' => l.agree eq l' && r.agree eq r'
  | or l r, or l' r' => l.agree eq l' && r.agree eq r'
  | not f, not f' => f.agree eq f'
  | _, _ => false

/-- The formulas of a list joined by AND from left to right, if there are any. -/
def conjunction? : List (Formula α) → Option (Formula α)
  | [] => none
  | f :: fs => some (fs.foldl and f)

/-- The formulas of a list joined by OR from left to right, if there are any. -/
def disjunction? : List (Formula α) → Option (Formula α)
  | [] => none
  | f :: fs => some (fs.foldl or f)

@[simp] theorem atoms_map (g : α → β) (f : Formula α) : (f.map g).atoms = f.atoms.map g := by
  induction f with
  | atom a => rfl
  | and l r hl hr => simp [map, atoms, hl, hr]
  | or l r hl hr => simp [map, atoms, hl, hr]
  | not f h => simp [map, atoms, h]

end Formula

end SqlAdapter
