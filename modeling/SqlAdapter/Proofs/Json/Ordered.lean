import SqlAdapter.Json.Reader

/-!
# Documents in key order

In a document that was read from a text, every object lists its members in the order of their keys, each
key once, at any depth. Main statement: every document that a text denotes is `Ordered`.
-/

set_option autoImplicit false

namespace SqlAdapter

theorem Keyed.mem_ofList {α : Type} {l : List (String × α)} {m : String × α} (h : m ∈ ofList l) :
    m ∈ l := by
  suffices hfold : ∀ r : List (String × α),
      m ∈ l.foldl (fun r m => insert m.1 m.2 r) r → m ∈ r ∨ m ∈ l from
    (hfold [] h).resolve_left List.not_mem_nil
  clear h
  induction l with
  | nil => exact fun r h => .inl h
  | cons a l ih =>
    intro r h
    rcases ih _ h with h | h
    · rcases mem_insert h with rfl | h
      · exact .inr List.mem_cons_self
      · exact .inl h
    · exact .inr (List.mem_cons_of_mem _ h)

namespace Json

/-- Every object in the document, at any depth, has its members in key order. -/
inductive Ordered : Json → Prop
  | null : Ordered .null
  | bool (b : Bool) : Ordered (.bool b)
  | number (n : Number) : Ordered (.number n)
  | string (s : String) : Ordered (.string s)
  | array {items : List Json} (h : ∀ x ∈ items, Ordered x) : Ordered (.array items)
  | object {members : List (String × Json)} (hkeys : Keyed.Ascending members)
    (h : ∀ m ∈ members, Ordered m.2) : Ordered (.object members)

namespace Written

mutual

theorem ordered_of_denotes? : ∀ {depth : Nat} {w : Written} {j : Json},
    w.denotes? depth = some j → j.Ordered
  | _, .null, j, h => by
    cases h
    exact .null
  | _, .bool b, j, h => by
    cases h
    exact .bool b
  | _, .number n, j, h => by
    rw [denotes?] at h
    obtain ⟨n, -, rfl⟩ := Option.map_eq_some_iff.1 h
    exact .number n
  | _, .string s, j, h => by
    rw [denotes?] at h
    obtain ⟨s, -, rfl⟩ := Option.map_eq_some_iff.1 h
    exact .string s
  | 0, .array _, j, h | 0, .object _, j, h => by
    cases h
  | d + 1, .array items, j, h => by
    rw [denotes?] at h
    obtain ⟨ys, hys, rfl⟩ := Option.map_eq_some_iff.1 h
    exact .array (ordered_of_itemsDenote? hys)
  | d + 1, .object members, j, h => by
    rw [denotes?] at h
    obtain ⟨ms, hms, rfl⟩ := Option.map_eq_some_iff.1 h
    apply Ordered.object (Keyed.ascending_ofList ms)
    intro m hm
    exact ordered_of_membersDenote? hms m (Keyed.mem_ofList hm)

theorem ordered_of_itemsDenote? : ∀ {depth : Nat} {ws : List Written} {ys : List Json},
    itemsDenote? depth ws = some ys → ∀ y ∈ ys, y.Ordered
  | _, [], ys, h => by
    cases h
    exact List.forall_mem_nil _
  | d, w :: ws, ys, h => by
    rw [itemsDenote?] at h
    obtain ⟨y, hy, h⟩ := Option.bind_eq_some_iff.1 h
    obtain ⟨rest, hrest, h⟩ := Option.bind_eq_some_iff.1 h
    cases h
    exact List.forall_mem_cons.2 ⟨ordered_of_denotes? hy, ordered_of_itemsDenote? hrest⟩

theorem ordered_of_membersDenote? : ∀ {depth : Nat} {ws : List (Option String × Written)}
    {ms : List (String × Json)}, membersDenote? depth ws = some ms → ∀ m ∈ ms, m.2.Ordered
  | _, [], ms, h => by
    cases h
    exact List.forall_mem_nil _
  | d, (k, w) :: ws, ms, h => by
    rw [membersDenote?] at h
    obtain ⟨key, -, h⟩ := Option.bind_eq_some_iff.1 h
    obtain ⟨y, hy, h⟩ := Option.bind_eq_some_iff.1 h
    obtain ⟨rest, hrest, h⟩ := Option.bind_eq_some_iff.1 h
    cases h
    exact List.forall_mem_cons.2 ⟨ordered_of_denotes? hy, ordered_of_membersDenote? hrest⟩

end

end Written

/-- A document that is read from a text is in key order. -/
theorem ordered_of_ofString? {s : String} {j : Json} (h : ofString? s = some j) : j.Ordered := by
  obtain ⟨w, -, hw⟩ := Option.bind_eq_some_iff.1 h
  exact Written.ordered_of_denotes? hw

end Json

end SqlAdapter
