import SqlAdapter.Binary64.Nearest
import SqlAdapter.Keyed

/-!
# JSON documents

The tree of a JSON document. The members of an object stand in the order in which they are written;
a document that was read from a text has them in key order (`Keyed.Ascending`).
-/

set_option autoImplicit false

namespace SqlAdapter

namespace Json

/-- An integer that a document holds exactly, signed or unsigned in 64 bits; a longer one is held as a
float. -/
structure Integer where
  val : Int
  lower : -9223372036854775808 ≤ val := by decide
  upper : val < 18446744073709551616 := by decide
  deriving DecidableEq

inductive Number where
  | integer (n : Integer)
  | float (x : Binary64)
  deriving DecidableEq

def Integer.ofInt? (n : Int) : Option Integer :=
  if h : -9223372036854775808 ≤ n ∧ n < 18446744073709551616 then some ⟨n, h.1, h.2⟩ else none

def Integer.ofInt64 (n : Int64) : Integer where
  val := n.toInt
  lower := n.le_toInt
  upper := by have := n.toInt_lt; omega

def Integer.ofUInt64 (n : UInt64) : Integer where
  val := n.toNat
  lower := by omega
  upper := by have := n.toNat_lt; omega

/-- The number as a signed 64-bit integer, if it is one. -/
def Number.toInt64? : Number → Option Int64
  | .integer n => if n.val < 9223372036854775808 then some (Int64.ofInt n.val) else none
  | .float _ => none

/-- The number as an unsigned 64-bit integer, if it is one. -/
def Number.toUInt64? : Number → Option UInt64
  | .integer n => if 0 ≤ n.val then some (UInt64.ofNat n.val.toNat) else none
  | .float _ => none

/-- The double nearest to the number. -/
def Number.toBinary64 : Number → Binary64
  | .integer n => (Binary64.nearest? (n.val < 0) n.val.natAbs 0).getD .zero
  | .float x => x

variable {n : Int64} {m : UInt64}

@[simp] theorem Integer.val_ofInt64 : (Integer.ofInt64 n).val = n.toInt := rfl

@[simp] theorem Number.toInt64?_ofInt64 :
    (Number.integer (.ofInt64 n)).toInt64? = some n := by
  have h : n.toInt < 9223372036854775808 := n.toInt_lt
  simp [toInt64?, h]

@[simp] theorem Number.toUInt64?_ofUInt64 :
    (Number.integer (.ofUInt64 m)).toUInt64? = some m := by
  simp [toUInt64?, Integer.ofUInt64]

end Json

inductive Json where
  | null
  | bool (b : Bool)
  | number (n : Json.Number)
  | string (s : String)
  | array (items : List Json)
  | object (members : List (String × Json))

namespace Json

def isNull : Json → Bool
  | null => true
  | _ => false

/-- The text of a document that is a string. -/
def text? : Json → Option String
  | string s => some s
  | _ => none

/-- The member of an object. -/
def get? (key : String) : Json → Option Json
  | object members => Keyed.get? key members
  | _ => none

def ofNat (n : Nat) : Json := ((Integer.ofInt? n).map fun n => number (.integer n)).getD null

end Json

end SqlAdapter
