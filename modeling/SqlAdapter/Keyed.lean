/-!
# Members in key order

Documents and records list their members in the order of the keys, each key once. Texts are ordered
by code point, which is the order of their UTF-8 bytes. `Keyed.insert` keeps the order; a key that is
present keeps its place and gets the new content.
-/

set_option autoImplicit false

namespace SqlAdapter.Keyed

variable {α : Type}

/-- Keys ascend, so none is repeated. -/
def Ascending (l : List (String × α)) : Prop := l.Pairwise fun a b => a.1 < b.1

instance (l : List (String × α)) : Decidable (Ascending l) :=
  inferInstanceAs (Decidable (l.Pairwise fun a b => a.1 < b.1))

def insert (key : String) (content : α) : List (String × α) → List (String × α)
  | [] => [(key, content)]
  | m :: r =>
    if key < m.1 then (key, content) :: m :: r
    else if key = m.1 then (key, content) :: r
    else m :: insert key content r

/-- The members of a list in key order; of a repeated key the last content counts. -/
def ofList (l : List (String × α)) : List (String × α) :=
  l.foldl (fun r m => insert m.1 m.2 r) []

def get? (key : String) (l : List (String × α)) : Option α :=
  (l.find? fun m => m.1 = key).map Prod.snd

variable {k k' : String} {v : α} {l : List (String × α)}

theorem mem_insert {m : String × α} (h : m ∈ insert k v l) : m = (k, v) ∨ m ∈ l := by
  induction l with
  | nil => simpa [insert] using h
  | cons a r ih =>
    simp only [insert] at h
    split at h
    · simpa using h
    · split at h
      · rcases List.mem_cons.1 h with h | h
        · exact .inl h
        · exact .inr (List.mem_cons_of_mem _ h)
      · rcases List.mem_cons.1 h with h | h
        · exact .inr (h ▸ List.mem_cons_self)
        · exact (ih h).imp_right (List.mem_cons_of_mem _)

theorem Ascending.insert (h : Ascending l) : Ascending (insert k v l) := by
  induction l with
  | nil => simp [Keyed.insert, Ascending]
  | cons a r ih =>
    obtain ⟨ha, hr⟩ := List.pairwise_cons.1 h
    simp only [Keyed.insert]
    split
    · next hk =>
      refine List.pairwise_cons.2 ⟨fun b hb => ?_, h⟩
      rcases List.mem_cons.1 hb with rfl | hb
      · exact hk
      · exact String.lt_trans hk (ha b hb)
    · split
      · next hk => exact List.pairwise_cons.2 ⟨fun b hb => hk ▸ ha b hb, hr⟩
      · next hlt hne =>
        refine List.pairwise_cons.2 ⟨fun b hb => ?_, ih hr⟩
        rcases mem_insert hb with rfl | hb
        · show a.1 < k
          grind
        · exact ha b hb

theorem ascending_ofList (l : List (String × α)) : Ascending (ofList l) := by
  suffices ∀ r : List (String × α), Ascending r →
      Ascending (l.foldl (fun r m => Keyed.insert m.1 m.2 r) r) from this [] .nil
  induction l with
  | nil => exact fun r hr => hr
  | cons m l ih => exact fun r hr => ih _ hr.insert

theorem insert_eq_concat (h : ∀ m ∈ l, m.1 < k) : insert k v l = l ++ [(k, v)] := by
  induction l with
  | nil => rfl
  | cons a r ih =>
    obtain ⟨ha, hr⟩ := List.forall_mem_cons.1 h
    rw [insert, if_neg (String.lt_asymm ha), if_neg (by rintro rfl; exact String.lt_irrefl _ ha),
      ih hr, List.cons_append]

theorem ofList_of_ascending (h : Ascending l) : ofList l = l := by
  suffices ∀ r : List (String × α), Ascending (r ++ l) →
      l.foldl (fun r m => insert m.1 m.2 r) r = r ++ l from this [] h
  clear h
  induction l with
  | nil => exact fun r _ => r.append_nil.symm
  | cons m l ih =>
    intro r hr
    have hlast : insert m.1 m.2 r = r ++ [m] :=
      insert_eq_concat fun a ha => (List.pairwise_append.1 hr).2.2 a ha m List.mem_cons_self
    rw [List.foldl_cons, hlast, ih _ (by simpa using hr), List.append_assoc, List.singleton_append]

@[simp] theorem get?_nil : get? k ([] : List (String × α)) = none := rfl

theorem get?_cons {m : String × α} : get? k (m :: l) = if m.1 = k then some m.2 else get? k l := by
  by_cases h : m.1 = k <;> simp [get?, h]

theorem get?_insert (h : Ascending l) :
    get? k' (insert k v l) = if k = k' then some v else get? k' l := by
  induction l with
  | nil => simp [insert, get?_cons]
  | cons a r ih =>
    obtain ⟨ha, hr⟩ := List.pairwise_cons.1 h
    simp only [insert]
    split
    · simp [get?_cons]
    · split
      · next hk => simp only [get?_cons, ← hk]; split <;> simp_all
      · next hne =>
        simp only [get?_cons, ih hr]
        split
        · next h1 => simp [h1 ▸ hne]
        · rfl

/-- A key has in the list of some members what the last of them gives it. -/
theorem get?_ofList : get? k (ofList l) = get? k l.reverse := by
  suffices hfold : ∀ l : List (String × α),
      Ascending (l.foldr (fun m r => insert m.1 m.2 r) []) ∧
        get? k (l.foldr (fun m r => insert m.1 m.2 r) []) = get? k l by
    rw [← (hfold l.reverse).2, List.foldr_reverse]
    rfl
  intro l
  induction l with
  | nil => exact ⟨.nil, rfl⟩
  | cons m l ih =>
    refine ⟨ih.1.insert, ?_⟩
    rw [List.foldr_cons, get?_insert ih.1, get?_cons, ih.2]

theorem get?_ofList_of_last (before : List (String × α)) {after : List (String × α)}
    (h : ∀ m ∈ after, m.1 ≠ k) : get? k (ofList (before ++ (k, v) :: after)) = some v := by
  have hafter : after.reverse.find? (fun m => decide (m.1 = k)) = none := by
    simpa [List.find?_eq_none] using h
  rw [get?_ofList, List.reverse_append, List.reverse_cons, get?, List.append_assoc,
    List.find?_append, hafter]
  simp

theorem isSome_get? : (get? k l).isSome = true ↔ k ∈ l.map Prod.fst := by
  simp [get?, List.mem_map]

theorem mem_keys_ofList : k ∈ (ofList l).map Prod.fst ↔ k ∈ l.map Prod.fst := by
  rw [← isSome_get?, get?_ofList, isSome_get?, List.map_reverse, List.mem_reverse]

end SqlAdapter.Keyed
