import SqlAdapter.Filter.Document
import SqlAdapter.SortSpec

/-!
# Criteria

What a read asks for: a filter, a sort, and which part of the sorted rows. Criteria are built step by
step or read from a document with the keys `filter`, `sort`, `limit` and `skip`; a null member is as
good as none.
-/

set_option autoImplicit false

namespace SqlAdapter

structure Criteria where
  filter : Option Filter := none
  sort : Option SortSpec := none
  limit : Option UInt64 := none
  skip : Option UInt64 := none

namespace Criteria

instance : EmptyCollection Criteria := ⟨{}⟩

/-- Joins a filter to the one that is there by AND. -/
def filterBy (c : Criteria) (f : Filter) : Criteria :=
  { c with filter := some (match c.filter with
      | some g => .and g f
      | none => f) }

def sortBy (c : Criteria) (s : SortSpec) : Criteria := { c with sort := some s }

def take (c : Criteria) (n : UInt64) : Criteria := { c with limit := some n }

def drop (c : Criteria) (n : UInt64) : Criteria := { c with skip := some n }

/-- A number of rows; null is no number. -/
def count (key : String) (j : Json) : Except CompileError (Option UInt64) :=
  let refused := Filter.invalid (key ++ " must be a non-negative integer")
  match j with
  | .null => .ok none
  | .number n =>
    match n.toUInt64? with
    | some k => .ok (some k)
    | none => refused
  | _ => refused

/-- Adds one member of a criteria document. -/
def withMember (c : Criteria) (key : String) (j : Json) : Except CompileError Criteria :=
  match key with
  | "filter" => do
    let f ← Filter.ofDocument j
    .ok { c with filter := f }
  | "sort" =>
    match j with
    | .null => .ok c
    | j => do
      let s ← SortSpec.ofDocument j
      .ok { c with sort := some s }
  | "limit" => do
    let n ← count key j
    .ok { c with limit := n }
  | "skip" => do
    let n ← count key j
    .ok { c with skip := n }
  | key => Filter.invalid ("unknown criteria key '" ++ key ++ "'")

def ofDocument : Json → Except CompileError Criteria
  | .object members => members.foldlM (fun c m => c.withMember m.1 m.2) ∅
  | j => Filter.invalid ("criteria must be an object, got " ++ j.compact)

end Criteria

end SqlAdapter
