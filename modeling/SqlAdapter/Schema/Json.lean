import SqlAdapter.Error
import SqlAdapter.Json.Members
import SqlAdapter.Schema.Basic

/-!
# Schemas as documents

A schema is written as an array of objects with the members `name`, `datatype` and `constraints`, and
read from one. Constraints may be left out in part or whole, and may be given as an array of flags in
their order. A repeated field is kept; a repeated member of one field is refused, and so is a member
of a field that denotes no document, even under an unknown key.
-/

set_option autoImplicit false

namespace SqlAdapter

open Json (Written)

def Constraints.toJson (c : Constraints) : Json :=
  .object [("required", .bool c.required), ("unique", .bool c.unique)]

def Constraints.ofWritten? : Written → Option Constraints
  | .object ms => do
    let required ← Written.optional? "required" Written.flag? false ms
    let unique ← Written.optional? "unique" Written.flag? false ms
    some ⟨required, unique⟩
  | .array [] => some {}
  | .array [r] => do
    let required ← r.flag?
    some ⟨required, false⟩
  | .array [r, u] => do
    let required ← r.flag?
    let unique ← u.flag?
    some ⟨required, unique⟩
  | _ => none

def Field.toJson (f : Field) : Json :=
  .object [("name", .string f.name), ("datatype", .string f.descriptor.datatype),
    ("constraints", f.descriptor.constraints.toJson)]

/-- Reads a field within `depth` levels of nesting. -/
def Field.ofWritten? (depth : Nat) (w : Written) : Option Field :=
  match w with
  | .object ms => do
    let _ ← w.denotes? depth
    let name ← Written.required? "name" Written.text? ms
    let datatype ← Written.required? "datatype" Written.text? ms
    let constraints ← Written.optional? "constraints" Constraints.ofWritten? {} ms
    some ⟨name, datatype, constraints⟩
  | _ => none

namespace Schema

def toJson (s : Schema) : Json := .array (s.fields.map Field.toJson)

/-- Reads a schema within `depth` levels of nesting. -/
def ofWritten? (depth : Nat) : Written → Option Schema
  | .array items =>
    match depth with
    | 0 => none
    | d + 1 => (items.mapM (Field.ofWritten? d)).map Schema.mk
  | _ => none

def ofDocument (j : Json) : Except Error Schema :=
  match ofWritten? Json.depthLimit j.written with
  | some s => .ok s
  | none => .error .decoding

end Schema

end SqlAdapter
