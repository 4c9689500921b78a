/-!
# Three-valued truth

A comparison with a null is neither true nor false. `and` is the lesser and `or` the greater of two
truth values in the order false, unknown, true; `not` turns the order round.
-/

set_option autoImplicit false

namespace SqlAdapter

inductive Truth where
  | false
  | unknown
  | true
  deriving DecidableEq, Repr

namespace Truth

def ofBool (b : Bool) : Truth := if b then .true else .false

def and : Truth → Truth → Truth
  | .false, _ => .false
  | _, .false => .false
  | .true, .true => .true
  | _, _ => .unknown

def or : Truth → Truth → Truth
  | .true, _ => .true
  | _, .true => .true
  | .false, .false => .false
  | _, _ => .unknown

def not : Truth → Truth
  | .false => .true
  | .unknown => .unknown
  | .true => .false

variable (a b c : Truth)

@[simp] theorem true_and : and .true a = a := by cases a <;> rfl

@[simp] theorem and_true : and a .true = a := by cases a <;> rfl

@[simp] theorem false_or : or .false a = a := by cases a <;> rfl

@[simp] theorem or_false : or a .false = a := by cases a <;> rfl

@[simp] theorem not_not : not (not a) = a := by cases a <;> rfl

theorem and_assoc : and (and a b) c = and a (and b c) := by cases a <;> cases b <;> cases c <;> rfl

theorem or_assoc : or (or a b) c = or a (or b c) := by cases a <;> cases b <;> cases c <;> rfl

theorem and_comm : and a b = and b a := by cases a <;> cases b <;> rfl

theorem not_or : not (or a b) = and (not a) (not b) := by cases a <;> cases b <;> rfl

theorem and_eq_true_iff : and a b = .true ↔ a = .true ∧ b = .true := by
  cases a <;> cases b <;> decide

theorem or_eq_true_iff : or a b = .true ↔ a = .true ∨ b = .true := by
  cases a <;> cases b <;> decide

end Truth

end SqlAdapter
