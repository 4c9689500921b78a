import SqlAdapter.Json.Printer
import SqlAdapter.Value.Basic

/-!
# Values and documents

Two readings of a document as a value, and one writing. `ofJson` binds any document: arrays and
objects become their text, since no column holds a structure. `decode?` reads what `toJson` writes:
an array of bytes is a blob, and other arrays and objects are refused.
-/

set_option autoImplicit false

namespace SqlAdapter.Value

def ofNumber (n : Json.Number) : Value :=
  match n.toInt64? with
  | some i => int i
  | none => float n.toBinary64

/-- The value bound for a document. -/
def ofJson : Json → Value
  | .null => null
  | .bool b => bool b
  | .number n => ofNumber n
  | .string s => text s
  | j => text j.compact

/-- The document of a value; a float that is not finite has none but null. -/
def toJson : Value → Json
  | null => .null
  | bool b => .bool b
  | int n => .number (.integer (.ofInt64 n))
  | float x => if x.isFinite then .number (.float x) else .null
  | text s => .string s
  | blob bytes => .array (bytes.map fun b => .ofNat b.toNat)

/-- A byte written as a number. -/
def byte? : Json → Option UInt8
  | .number (.integer n) =>
    if 0 ≤ n.val ∧ n.val < 256 then some (UInt8.ofNat n.val.toNat) else none
  | _ => none

/-- Reads a document written by `toJson`. -/
def decode? : Json → Option Value
  | .null => some null
  | .bool b => some (bool b)
  | .number n => some (ofNumber n)
  | .string s => some (text s)
  | .array items => (items.mapM byte?).map blob
  | .object _ => none

@[simp] theorem ofNumber_ofInt64 (n : Int64) : ofNumber (.integer (.ofInt64 n)) = int n := by
  simp [ofNumber]

@[simp] theorem ofNumber_float (x : Binary64) : ofNumber (.float x) = float x := rfl

end SqlAdapter.Value
