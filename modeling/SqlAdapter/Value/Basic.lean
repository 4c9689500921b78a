import SqlAdapter.Json.Basic

/-!
# Values

A value that can be bound to a placeholder of a statement or read back from a row. Values never
appear inside the text of a statement.
-/

set_option autoImplicit false

namespace SqlAdapter

inductive Value where
  | null
  | bool (b : Bool)
  | int (n : Int64)
  | float (x : Binary64)
  | text (s : String)
  | blob (bytes : List UInt8)
  deriving DecidableEq

namespace Value

/-- Equality with floats compared as numbers: a NaN is equal to nothing, the zeros are equal. -/
def same : Value → Value → Bool
  | float x, float y => x.sameNumber y
  | v, w => v = w

/-- An absent value is null. -/
def ofOption : Option Value → Value
  | some v => v
  | none => null

@[simp] theorem ofOption_some (v : Value) : ofOption (some v) = v := rfl

@[simp] theorem ofOption_none : ofOption none = null := rfl

end Value

end SqlAdapter
