import SqlAdapter.Sql.Command
import SqlAdapter.Text.Pattern
import SqlAdapter.Value.Cell
import SqlAdapter.Value.Json

/-!
# The order of stored values

Any two values are ordered: null before numbers, numbers before texts, texts before blobs; integers and
floats among each other by the exact numbers, texts by their code points and blobs by their bytes. A
comparison in a condition is a matter of three truth values, since null is unknown.
-/

set_option autoImplicit false

namespace SqlAdapter

namespace Value

/-- A number as a multiple of the least positive double. -/
def scaled? : Value → Option Int
  | int n => some (n.toInt * Nat.pow 2 1074)
  | float x => some x.scaled
  | _ => none

/-- The place of a kind of value among the others. -/
def rank : Value → Nat
  | null => 0
  | bool _ | int _ | float _ => 1
  | text _ => 2
  | blob _ => 3

/-- The order of two stored values. -/
def order : Value → Value → Ordering
  | text s, text t => compareOfLessAndEq s t
  | blob a, blob b => compareOfLessAndEq a b
  | v, w =>
    match v.scaled?, w.scaled? with
    | some m, some n => compare m n
    | _, _ => compare v.rank w.rank

/-- The characters of a pattern or of what it is held against; a NUL ends either. -/
def patternChars : Value → List Char
  | text s => s.toList.takeWhile (· ≠ '\x00')
  | v => v.toJson.chars

/-- The truth of a statement about two values that only a null leaves unknown. -/
def unlessNull (v w : Value) (b : Bool) : Truth :=
  if v = null ∨ w = null then .unknown else .ofBool b

end Value

/-- Whether a comparison holds between values in the given order. -/
def Comparison.holds : Comparison → Ordering → Bool
  | .eq, o => o = .eq
  | .ne, o => o ≠ .eq
  | .gt, o => o = .gt
  | .gte, o => o ≠ .lt
  | .lt, o => o = .lt
  | .lte, o => o ≠ .gt

def Comparison.truth (op : Comparison) (v w : Value) : Truth :=
  v.unlessNull w (op.holds (v.order w))

def Direction.orient : Direction → Ordering → Ordering
  | .ascending, o => o
  | .descending, o => o.swap

example : (Value.int 3).order (.float .one) = .gt := by decide +kernel
example : Comparison.truth .eq .null .null = .unknown := by decide

end SqlAdapter
