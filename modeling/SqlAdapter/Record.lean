import SqlAdapter.Error
import SqlAdapter.Value.Cell
import SqlAdapter.Value.Json

/-!
# Records

A record gives each of its fields a value. Its fields are listed in the order of their names, each
once.
-/

set_option autoImplicit false

namespace SqlAdapter

@[ext] structure Record where
  entries : List (String × Value)
  ascending : Keyed.Ascending entries

namespace Record

instance : DecidableEq Record := fun a b =>
  decidable_of_iff (a.entries = b.entries) Record.ext_iff.symm

instance : EmptyCollection Record := ⟨⟨[], .nil⟩⟩

def insert (r : Record) (name : String) (v : Value) : Record where
  entries := Keyed.insert name v r.entries
  ascending := r.ascending.insert

/-- The record of a list of fields; of a repeated name the last value counts. -/
def ofList (l : List (String × Value)) : Record where
  entries := Keyed.ofList l
  ascending := Keyed.ascending_ofList l

def get? (r : Record) (name : String) : Option Value := Keyed.get? name r.entries

def contains (r : Record) (name : String) : Bool := (r.get? name).isSome

def names (r : Record) : List String := r.entries.map Prod.fst

def values (r : Record) : List Value := r.entries.map Prod.snd

def isEmpty (r : Record) : Bool := r.entries.isEmpty

/-- The document of a record: an object with the document of each value. -/
def toJson (r : Record) : Json := .object (r.entries.map fun m => (m.1, m.2.toJson))

/-- The record of a document: its members, each with the value bound for it. -/
def ofDocument : Json → Except CompileError Record
  | .object members => .ok (ofList (members.map fun m => (m.1, Value.ofJson m.2)))
  | j => .error (.invalidRecord ("expected an object, got " ++ j.compact))

/-- The record of a row: its columns from left to right, each read by its storage class. Of a repeated
name the last column counts. -/
def ofRow? (row : List (String × Cell)) : Option Record :=
  row.foldlM (fun r c => c.2.read?.map (r.insert c.1)) ∅

variable {r : Record} {n n' : String} {v : Value}

@[simp] theorem entries_empty : (∅ : Record).entries = [] := rfl

@[simp] theorem get?_empty : (∅ : Record).get? n = none := rfl

theorem get?_insert : (r.insert n v).get? n' = if n = n' then some v else r.get? n' :=
  Keyed.get?_insert r.ascending

end Record

end SqlAdapter
