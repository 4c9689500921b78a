import SqlAdapter.Sql.Command
import SqlAdapter.Value.Basic

/-!
# Filters

A filter combines tests of fields against values. As a statement it falls apart in two: its condition,
in which every value is left open, and its operands, the values from left to right. A test against an
empty list is a constant.
-/

set_option autoImplicit false

namespace SqlAdapter

namespace Filter

inductive Atom where
  | compare (field : String) (op : Comparison) (value : Value)
  | isNull (field : String)
  | isNotNull (field : String)
  | oneOf (field : String) (values : List Value)
  | noneOf (field : String) (values : List Value)
  | like (field pattern : String)
  | between (field : String) (low high : Value)
  deriving DecidableEq

/-- The test of an atom with its values left open. -/
def Atom.test : Atom → Sql.Test
  | compare f op _ => .compare f op
  | isNull f => .isNull f
  | isNotNull f => .isNotNull f
  | oneOf _ [] => .constant false
  | noneOf _ [] => .constant true
  | oneOf f (v :: vs) => .isIn f (v :: vs).length
  | noneOf f (v :: vs) => .notIn f (v :: vs).length
  | like f _ => .like f
  | between f _ _ => .between f

def Atom.operands : Atom → List Value
  | compare _ _ v => [v]
  | isNull _ | isNotNull _ => []
  | oneOf _ vs | noneOf _ vs => vs
  | like _ pattern => [.text pattern]
  | between _ low high => [low, high]

/-- Equality of atoms with floats compared as numbers. -/
def Atom.same : Atom → Atom → Bool
  | compare f op v, compare f' op' v' => f = f' && op = op' && v.same v'
  | isNull f, isNull f' => f = f'
  | isNotNull f, isNotNull f' => f = f'
  | oneOf f vs, oneOf f' vs' => f = f' && sameAll vs vs'
  | noneOf f vs, noneOf f' vs' => f = f' && sameAll vs vs'
  | like f p, like f' p' => f = f' && p = p'
  | between f low high, between f' low' high' => f = f' && low.same low' && high.same high'
  | _, _ => false
where
  sameAll : List Value → List Value → Bool
    | [], [] => true
    | v :: vs, w :: ws => v.same w && sameAll vs ws
    | _, _ => false

theorem Atom.arity_test (a : Atom) : a.test.arity = a.operands.length := by
  cases a with
  | oneOf f vs => cases vs <;> simp [test, operands, Sql.Test.arity]
  | noneOf f vs => cases vs <;> simp [test, operands, Sql.Test.arity]
  | _ => simp [test, operands, Sql.Test.arity]

end Filter

abbrev Filter := Formula Filter.Atom

namespace Filter

/-- The condition of a filter, with every value left open. -/
def condition (f : Filter) : Sql.Condition := f.map Atom.test

/-- The values of a filter, from left to right. -/
def operands (f : Filter) : List Value := f.atoms.flatMap Atom.operands

/-- Equality of filters with floats compared as numbers. -/
def same (f g : Filter) : Bool := f.agree Atom.same g

variable (f g : Filter)

@[simp] theorem operands_and : operands (.and f g) = operands f ++ operands g := by
  simp [operands, Formula.atoms]

@[simp] theorem operands_or : operands (.or f g) = operands f ++ operands g := by
  simp [operands, Formula.atoms]

@[simp] theorem operands_not : operands (.not f) = operands f := rfl

theorem arityOf_condition : Sql.arityOf (condition f) = (operands f).length := by
  induction f with
  | atom a => simp [condition, Formula.map, Sql.arityOf, operands, Formula.atoms, a.arity_test]
  | and l r hl hr =>
    simp only [condition, Formula.map, Sql.arityOf, operands_and, List.length_append] at *
    rw [hl, hr]
  | or l r hl hr =>
    simp only [condition, Formula.map, Sql.arityOf, operands_or, List.length_append] at *
    rw [hl, hr]
  | not f h => exact h

end Filter

end SqlAdapter
