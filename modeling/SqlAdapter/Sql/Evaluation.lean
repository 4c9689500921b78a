import SqlAdapter.Filter.Basic
import SqlAdapter.Value.Order

/-!
# Evaluating a condition

`fill` hands out a list of values to the placeholders of a condition from left to right, and `Test.truth`
judges one test by the content of the columns.
-/

set_option autoImplicit false

namespace SqlAdapter.Sql

/-- A test together with the values for its placeholders. -/
abbrev FilledTest := Test × List Value

/-- Gives every test the values of its placeholders, and what is left of the values. -/
def fill : Condition → List Value → Formula FilledTest × List Value
  | .atom t, vs => (.atom (t, vs.take t.arity), vs.drop t.arity)
  | .and l r, vs =>
    (.and (fill l vs).1 (fill r (fill l vs).2).1, (fill r (fill l vs).2).2)
  | .or l r, vs =>
    (.or (fill l vs).1 (fill r (fill l vs).2).1, (fill r (fill l vs).2).2)
  | .not f, vs => (.not (fill f vs).1, (fill f vs).2)

/-- Whether a value is equal to one of a list. -/
def memberTruth (v : Value) : List Value → Truth
  | [] => .false
  | w :: ws => (Comparison.truth .eq v w).or (memberTruth v ws)

/-- The truth of a test, where `read` gives the content of a column. A placeholder without a value
stands for null. -/
def Test.truth (read : String → Value) : Test → List Value → Truth
  | compare c op, vs => op.truth (read c) (vs.headD .null)
  | isNull c, _ => .ofBool (read c = .null)
  | isNotNull c, _ => .ofBool (read c ≠ .null)
  | isIn c _, vs => memberTruth (read c) vs
  | notIn c _, vs => (memberTruth (read c) vs).not
  | like c, vs =>
    (read c).unlessNull (vs.headD .null)
      (Text.matchesPattern (vs.headD .null).patternChars (read c).patternChars)
  | between c, vs =>
    (Comparison.truth .gte (read c) (vs.headD .null)).and
      (Comparison.truth .lte (read c) (vs.tail.headD .null))
  | constant b, _ => .ofBool b

/-- The truth of a condition whose placeholders have values. -/
def conditionTruth (read : String → Value) (c : Condition) (vs : List Value) : Truth :=
  (fill c vs).1.truth fun t => t.1.truth read t.2

end SqlAdapter.Sql
