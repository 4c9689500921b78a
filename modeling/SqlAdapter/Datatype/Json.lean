import SqlAdapter.Datatype
import SqlAdapter.Json.Basic

/-!
# Datatypes as documents

A datatype is written as its name. It is read from its name in exactly this spelling, or from an object
whose only member has the name as its key and null as its content.
-/

set_option autoImplicit false

namespace SqlAdapter.Datatype

def toJson (d : Datatype) : Json := .string d.name

def ofDocument? : Json → Option Datatype
  | .string s => ofName? s
  | .object [(key, .null)] => ofName? key
  | _ => none

@[simp] theorem ofDocument?_toJson (d : Datatype) : ofDocument? d.toJson = some d := ofName?_name d

end SqlAdapter.Datatype
