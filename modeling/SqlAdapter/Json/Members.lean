import SqlAdapter.Json.Written

/-!
# Reading the members of a written object

A member with a known key may stand anywhere among the members of an object, but only once. Members
with other keys do not matter.
-/

set_option autoImplicit false

namespace SqlAdapter.Json.Written

abbrev Members := List (Option String × Written)

variable {α : Type}

/-- The content of the only member with a key, if there is one; two members with the key are
refused. -/
def sole? (key : String) (ms : Members) : Option (Option Written) :=
  match ms.filter fun m => m.1 = some key with
  | [] => some none
  | [m] => some (some m.2)
  | _ => none

/-- Reads a member that must be there. -/
def required? (key : String) (read : Written → Option α) (ms : Members) : Option α := do
  let w ← sole? key ms
  let w ← w
  read w

/-- Reads a member that may be left out. -/
def optional? (key : String) (read : Written → Option α) (fallback : α) (ms : Members) : Option α := do
  match ← sole? key ms with
  | some w => read w
  | none => some fallback

def text? : Written → Option String
  | .string s => s
  | _ => none

def flag? : Written → Option Bool
  | .bool b => some b
  | _ => none

/-- Whether every key denotes a text. -/
def keysDenote (ms : Members) : Bool := ms.all fun m => m.1.isSome

theorem sole?_perm {key : String} {ms ms' : Members} (h : ms.Perm ms') :
    sole? key ms = sole? key ms' := by
  have hp := h.filter fun m => m.1 = some key
  unfold sole?
  split
  · next e => rw [e] at hp; rw [hp.symm.eq_nil]
  · next m e => rw [e] at hp; rw [List.perm_singleton.1 hp.symm]
  · next h0 h1 =>
    split
    · next e => rw [e] at hp; exact (h0 hp.eq_nil).elim
    · next m e => rw [e] at hp; exact (h1 m (List.perm_singleton.1 hp)).elim
    · rfl

/-- The members with a key whose content is known. -/
theorem filter_of_sole? {key : String} {ms : Members} {o : Option Written} (h : sole? key ms = some o) :
    ms.filter (fun m => m.1 = some key) = o.toList.map fun w => (some key, w) := by
  have hkey : ∀ m ∈ ms.filter (fun m => m.1 = some key), m.1 = some key := fun m hm => by
    simpa using (List.mem_filter.1 hm).2
  unfold sole? at h
  split at h
  · next hnone =>
    cases h
    exact hnone
  · next m hone =>
    cases h
    rw [hone]
    have hm : m.1 = some key := hkey m (by rw [hone]; exact List.mem_singleton_self m)
    rw [← hm]
    rfl
  · cases h

theorem required?_eq_some {key : String} {read : Written → Option α} {ms : Members} {a : α}
    (h : required? key read ms = some a) : ∃ w, sole? key ms = some (some w) ∧ read w = some a := by
  obtain ⟨o, hsole, h⟩ := Option.bind_eq_some_iff.1 h
  obtain ⟨w, rfl, hread⟩ := Option.bind_eq_some_iff.1 h
  exact ⟨w, hsole, hread⟩

end SqlAdapter.Json.Written
