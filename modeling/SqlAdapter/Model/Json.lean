import SqlAdapter.Json.Reader
import SqlAdapter.Model.Basic
import SqlAdapter.Schema.Json

/-!
# Model files

A model is written as an object with the members `table`, `primary_key`, `external_schema` and
`fields`. Only the table must be given, and the four may also stand in an array in this order. Members
with other keys are skipped: of them only the grammar counts, whatever they denote. A model read from a
file has an empty cache.
-/

set_option autoImplicit false

namespace SqlAdapter.Model

open Json (Written)

def toJson (m : Model) : Json :=
  .object [("table", .string m.table), ("primary_key", .string m.primaryKey),
    ("external_schema", .bool m.isExternal), ("fields", m.schema.toJson)]

/-- Reads a model within `depth` levels of nesting below its own. -/
def ofParts? (depth : Nat) (table : Written) (primaryKey external fields : Option Written) :
    Option Model := do
  let table ← table.text?
  let primaryKey ← (primaryKey.map Written.text?).getD (some "_id")
  let external ← (external.map Written.flag?).getD (some false)
  let fields ← (fields.map (Schema.ofWritten? depth)).getD (some ∅)
  some { table := table, primaryKey := primaryKey, isExternal := external, schema := fields }

def ofWritten? (depth : Nat) (w : Written) : Option Model :=
  match depth, w with
  | 0, _ => none
  | d + 1, .object ms =>
    if Written.keysDenote ms then do
      let table ← Written.required? "table" some ms
      let primaryKey ← Written.sole? "primary_key" ms
      let external ← Written.sole? "external_schema" ms
      let fields ← Written.sole? "fields" ms
      ofParts? d table primaryKey external fields
    else none
  | d + 1, .array [t] => ofParts? d t none none none
  | d + 1, .array [t, p] => ofParts? d t (some p) none none
  | d + 1, .array [t, p, e] => ofParts? d t (some p) (some e) none
  | d + 1, .array [t, p, e, f] => ofParts? d t (some p) (some e) (some f)
  | _, _ => none

def ofString? (s : String) : Option Model :=
  (Written.ofString? s).bind (ofWritten? Json.depthLimit)

def ofDocument (j : Json) : Except Error Model :=
  match ofWritten? Json.depthLimit j.written with
  | some m => .ok m
  | none => .error .decoding

/-- The model in a file with the given content; without content there is no such file. -/
def load (content : Option ByteArray) : Except Error Model :=
  match content with
  | none => .error (.io "No such file or directory (os error 2)")
  | some bytes =>
    match String.fromUTF8? bytes with
    | none => .error (.io "stream did not contain valid UTF-8")
    | some s =>
      match ofString? s with
      | some m => .ok m
      | none => .error .decoding

end SqlAdapter.Model
