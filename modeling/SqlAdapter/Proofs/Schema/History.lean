import Mathlib.Data.List.Induction
import Mathlib.Data.List.Nodup
import SqlAdapter.Schema.Basic

/-!
# A schema and its history

A schema comes about by insertions and removals, starting from the one without fields. What it holds can be
told from this history alone: of a name, the last word on it; of the order, when each name arrived. Main
statement: a schema is the map of its history in the order of arrival, and a change of one name leaves all
others alone.
-/

set_option autoImplicit false

namespace SqlAdapter.Schema

inductive Change where
  | insert (name : String) (d : Descriptor)
  | remove (name : String)
  deriving DecidableEq

namespace Change

def name : Change → String
  | insert n _ | remove n => n

def apply (s : Schema) : Change → Schema
  | insert n d => s.insert n d
  | remove n => (s.remove n).2

end Change

/-- The schema that a history of changes leads to. -/
def ofHistory (h : List Change) : Schema := h.foldl Change.apply ∅

/-- The last change of the name inserts it with the descriptor. -/
def Declares (h : List Change) (n : String) (d : Descriptor) : Prop :=
  ∃ before after, h = before ++ .insert n d :: after ∧ ∀ c ∈ after, c.name ≠ n

/-- The name is inserted as change number `i`, where it is absent, and is not removed later. -/
def Arrives (h : List Change) (n : String) (i : Nat) : Prop :=
  ∃ before d after, h = before ++ .insert n d :: after ∧ before.length = i ∧
    (∀ e, ¬Declares before n e) ∧ .remove n ∉ after

section History

variable {h : List Change} {c : Change} {n : String} {d e : Descriptor} {i j : Nat}

/-- The last change is on the name, or it leaves the word on it to the changes before. -/
theorem declares_concat :
    Declares (h ++ [c]) n d ↔ c = .insert n d ∨ c.name ≠ n ∧ Declares h n d := by
  constructor
  · rintro ⟨before, after, heq, hafter⟩
    rcases List.eq_nil_or_concat after with rfl | ⟨after, c', rfl⟩
    · exact .inl (List.append_inj_right' heq rfl |> List.singleton_inj.1)
    · rw [List.concat_eq_append, List.forall_mem_append, List.forall_mem_singleton] at hafter
      rw [List.concat_eq_append, ← List.cons_append, ← List.append_assoc] at heq
      obtain ⟨rfl, hc⟩ := List.append_inj' heq rfl
      rw [List.singleton_inj.1 hc]
      exact .inr ⟨hafter.2, before, after, rfl, hafter.1⟩
  · rintro (rfl | ⟨hc, before, after, rfl, hafter⟩)
    · exact ⟨h, [], rfl, List.forall_mem_nil _⟩
    · refine ⟨before, after ++ [c], by simp, ?_⟩
      rw [List.forall_mem_append, List.forall_mem_singleton]
      exact ⟨hafter, hc⟩

theorem not_declares_nil : ¬Declares [] n d := by
  rintro ⟨before, after, heq, -⟩
  exact absurd heq (by simp)

/-- A name that has arrived stays unless it is removed; an absent one arrives with its insertion. -/
theorem arrives_concat :
    Arrives (h ++ [c]) n i ↔ c ≠ .remove n ∧ Arrives h n i ∨
      (∃ d, c = .insert n d) ∧ i = h.length ∧ ∀ e, ¬Declares h n e := by
  constructor
  · rintro ⟨before, d, after, heq, hi, habsent, hafter⟩
    rcases List.eq_nil_or_concat after with rfl | ⟨after, c', rfl⟩
    · obtain ⟨rfl, hc⟩ := List.append_inj' heq rfl
      exact .inr ⟨⟨d, List.singleton_inj.1 hc⟩, hi.symm, habsent⟩
    · rw [List.concat_eq_append, List.mem_append, not_or, List.mem_singleton] at hafter
      rw [List.concat_eq_append, ← List.cons_append, ← List.append_assoc] at heq
      obtain ⟨rfl, hc⟩ := List.append_inj' heq rfl
      rw [List.singleton_inj.1 hc]
      exact .inl ⟨Ne.symm hafter.2, before, d, after, rfl, hi, habsent, hafter.1⟩
  · rintro (⟨hc, before, d, after, rfl, hi, habsent, hafter⟩ | ⟨⟨d, rfl⟩, hi, habsent⟩)
    · refine ⟨before, d, after ++ [c], by simp, hi, habsent, ?_⟩
      rw [List.mem_append, not_or, List.mem_singleton]
      exact ⟨hafter, Ne.symm hc⟩
    · exact ⟨h, d, [], rfl, hi.symm, habsent, List.not_mem_nil⟩

theorem not_arrives_nil : ¬Arrives [] n i := by
  rintro ⟨before, d, after, heq, -⟩
  exact absurd heq (by simp)

end History

/-! ## One change -/

section Changes

variable {s : Schema} {c : Change} {n n' : String} {d : Descriptor} {l : List Field}

theorem mem_names_iff : n ∈ s.names ↔ ∃ d, s.get? n = some d := by
  rw [← Option.isSome_iff_exists, get?, Option.isSome_map, List.find?_isSome, names, List.mem_map]
  simp

theorem names_remove : (s.remove n).2.names = s.names.erase n := by
  obtain ⟨l⟩ := s
  show (removeFrom n l).2.map Field.name = (l.map Field.name).erase n
  induction l with
  | nil => rfl
  | cons f r ih => by_cases h : f.name = n <;> simp [removeFrom, h, ih]

theorem filter_remove {p : String → Bool} (h : p n = false) :
    (s.remove n).2.fields.filter (fun f => p f.name) = s.fields.filter fun f => p f.name := by
  obtain ⟨l⟩ := s
  show (removeFrom n l).2.filter _ = l.filter _
  induction l with
  | nil => rfl
  | cons f r ih =>
    by_cases hf : f.name = n
    · simp [removeFrom, hf, h]
    · simp only [removeFrom, if_neg hf, List.filter_cons, ih]

theorem filter_apply (s : Schema) (c : Change) :
    (c.apply s).fields.filter (fun f => f.name ≠ c.name) =
      s.fields.filter fun f => f.name ≠ c.name := by
  cases c with
  | insert n d => exact filter_insert (p := fun m => m ≠ n) (by simp)
  | remove n => exact filter_remove (p := fun m => m ≠ n) (by simp)

theorem filter_toList_apply (s : Schema) (c : Change) :
    (c.apply s).toList.filter (fun p => p.1 ≠ c.name) = s.toList.filter fun p => p.1 ≠ c.name := by
  rw [toList, toList, List.filter_map, List.filter_map]
  exact congrArg (List.map _) (filter_apply s c)

theorem get?_apply_of_ne (h : c.name ≠ n) : (c.apply s).get? n = s.get? n := by
  have hfind : ∀ l : List Field, l.find? (fun f => f.name = n) =
      (l.filter fun f => f.name ≠ c.name).find? fun f => f.name = n := by
    intro l
    rw [List.find?_filter]
    congr 1
    funext f
    by_cases hf : f.name = n
    · simp [hf, h.symm]
    · simp [hf]
  rw [get?, hfind, filter_apply, ← hfind, get?]

theorem nodup_names_apply (hs : s.names.Nodup) : (c.apply s).names.Nodup := by
  cases c with
  | insert n d =>
    show (s.insert n d).names.Nodup
    rw [names_insert]
    split
    · exact hs
    · case isFalse hn =>
      rw [List.nodup_append]
      refine ⟨hs, List.pairwise_singleton _ _, ?_⟩
      rintro m hm _ hn'
      rw [List.mem_singleton.1 hn']
      exact fun heq => hn (heq ▸ hm)
  | remove n =>
    show (s.remove n).2.names.Nodup
    rw [names_remove]
    exact hs.erase n

theorem names_insert_remove (hs : s.names.Nodup) :
    ((s.remove n).2.insert n d).names = s.names.filter (· ≠ n) ++ [n] := by
  rw [names_insert, names_remove, if_neg hs.not_mem_erase, hs.erase_eq_filter]
  simp [bne, beq_eq_decide]

theorem get?_remove (hs : s.names.Nodup) : (s.remove n).2.get? n = none := by
  have hn : n ∉ (s.remove n).2.names := by
    rw [names_remove]
    exact hs.not_mem_erase
  rw [mem_names_iff, ← Option.isSome_iff_exists] at hn
  simpa using hn

theorem mem_toList_iff (hs : s.names.Nodup) : (n, d) ∈ s.toList ↔ s.get? n = some d := by
  obtain ⟨l⟩ := s
  rw [toList, List.mem_map, get?, Option.map_eq_some_iff]
  constructor
  · rintro ⟨f, hf, heq⟩
    obtain ⟨rfl, rfl⟩ := Prod.mk.inj heq
    obtain ⟨g, hfind⟩ : ∃ g, l.find? (fun g => g.name = f.name) = some g := by
      rw [← Option.isSome_iff_exists, List.find?_isSome]
      exact ⟨f, hf, decide_eq_true rfl⟩
    have hname : g.name = f.name := by simpa using List.find?_some hfind
    obtain rfl : g = f := List.inj_on_of_nodup_map hs (List.mem_of_find?_eq_some hfind) hf hname
    exact ⟨g, hfind, rfl⟩
  · rintro ⟨f, hfind, rfl⟩
    have hname : f.name = n := by simpa using List.find?_some hfind
    exact ⟨f, List.mem_of_find?_eq_some hfind, by rw [hname]⟩

end Changes

/-! ## A whole history -/

section Histories

variable {h : List Change} {c : Change} {n : String} {d : Descriptor} {i j : Nat}

theorem ofHistory_concat : ofHistory (h ++ [c]) = c.apply (ofHistory h) := List.foldl_append

theorem nodup_names_ofHistory (h : List Change) : (ofHistory h).names.Nodup := by
  induction h using List.reverseRecOn with
  | nil => exact .nil
  | append_singleton h c ih =>
    rw [ofHistory_concat]
    exact nodup_names_apply ih

theorem get?_ofHistory : (ofHistory h).get? n = some d ↔ Declares h n d := by
  induction h using List.reverseRecOn with
  | nil => exact ⟨nofun, fun h => (not_declares_nil h).elim⟩
  | append_singleton h c ih =>
    rw [ofHistory_concat, declares_concat]
    by_cases hc : c.name = n
    · subst hc
      cases c with
      | insert n e =>
        show ((ofHistory h).insert n e).get? n = some d ↔ _
        rw [get?_insert, if_pos rfl]
        simp [Change.name]
      | remove n =>
        show ((ofHistory h).remove n).2.get? n = some d ↔ _
        rw [get?_remove (nodup_names_ofHistory h)]
        simp [Change.name]
    · rw [get?_apply_of_ne hc, ih]
      constructor
      · exact fun hd => .inr ⟨hc, hd⟩
      · rintro (rfl | hd)
        · exact absurd rfl hc
        · exact hd.2

theorem mem_names_ofHistory : n ∈ (ofHistory h).names ↔ ∃ d, Declares h n d := by
  rw [mem_names_iff]
  simp only [get?_ofHistory]

theorem mem_names_iff_arrives : n ∈ (ofHistory h).names ↔ ∃ i, Arrives h n i := by
  induction h using List.reverseRecOn with
  | nil => exact ⟨nofun, fun ⟨i, hi⟩ => (not_arrives_nil hi).elim⟩
  | append_singleton h c ih =>
    have habsent : (∀ e, ¬Declares h n e) ↔ n ∉ (ofHistory h).names := by
      rw [mem_names_ofHistory, not_exists]
    simp only [arrives_concat, habsent, exists_or, exists_and_left, ← ih, exists_eq_left]
    rw [ofHistory_concat]
    cases c with
    | insert m e =>
      show n ∈ ((ofHistory h).insert m e).names ↔ _
      rw [names_insert]
      by_cases hm : m = n
      · subst hm
        by_cases hin : m ∈ (ofHistory h).names <;> simp [hin]
      · split <;> simp [hm, Ne.symm hm]
    | remove m =>
      show n ∈ ((ofHistory h).remove m).2.names ↔ _
      rw [names_remove, (nodup_names_ofHistory h).mem_erase_iff]
      simp [eq_comm]

theorem Arrives.unique (hi : Arrives h n i) (hj : Arrives h n j) : i = j := by
  induction h using List.reverseRecOn with
  | nil => exact (not_arrives_nil hi).elim
  | append_singleton h c ih =>
    -- a name that arrives with the last change was absent, so it had not arrived before
    have habsent : (∀ e, ¬Declares h n e) → ∀ k, ¬Arrives h n k := by
      intro habsent k hk
      obtain ⟨e, he⟩ := mem_names_ofHistory.1 (mem_names_iff_arrives.2 ⟨k, hk⟩)
      exact habsent e he
    rcases arrives_concat.1 hi with ⟨-, hi⟩ | ⟨-, rfl, hnone⟩
    · rcases arrives_concat.1 hj with ⟨-, hj⟩ | ⟨-, rfl, hnone⟩
      · exact ih hi hj
      · exact (habsent hnone i hi).elim
    · rcases arrives_concat.1 hj with ⟨-, hj⟩ | ⟨-, rfl, -⟩
      · exact (habsent hnone j hj).elim
      · rfl

theorem Arrives.lt_length (hi : Arrives h n i) : i < h.length := by
  obtain ⟨before, d, after, rfl, rfl, -⟩ := hi
  simp

/-- The names stand in the order of their arrival. -/
theorem pairwise_names_ofHistory (h : List Change) :
    (ofHistory h).names.Pairwise fun m n => ∃ i j, i < j ∧ Arrives h m i ∧ Arrives h n j := by
  induction h using List.reverseRecOn with
  | nil => exact .nil
  | append_singleton h c ih =>
    rw [ofHistory_concat]
    cases c with
    | insert n e =>
      show ((ofHistory h).insert n e).names.Pairwise _
      have hkept : ∀ {m i}, Arrives h m i → Arrives (h ++ [.insert n e]) m i :=
        fun hm => arrives_concat.2 (.inl ⟨nofun, hm⟩)
      have hold : (ofHistory h).names.Pairwise fun m n' => ∃ i j, i < j ∧
          Arrives (h ++ [.insert n e]) m i ∧ Arrives (h ++ [.insert n e]) n' j :=
        ih.imp fun ⟨i, j, hij, hi, hj⟩ => ⟨i, j, hij, hkept hi, hkept hj⟩
      rw [names_insert]
      split
      · exact hold
      · case isFalse hn =>
        have hnew : Arrives (h ++ [.insert n e]) n h.length := by
          rw [mem_names_ofHistory, not_exists] at hn
          exact arrives_concat.2 (.inr ⟨⟨e, rfl⟩, rfl, hn⟩)
        rw [List.pairwise_append]
        refine ⟨hold, List.pairwise_singleton _ _, ?_⟩
        intro m hm n' hn'
        obtain ⟨i, hi⟩ := mem_names_iff_arrives.1 hm
        rw [List.mem_singleton.1 hn']
        exact ⟨i, h.length, hi.lt_length, hkept hi, hnew⟩
    | remove n =>
      show ((ofHistory h).remove n).2.names.Pairwise _
      rw [names_remove]
      refine (ih.sublist List.erase_sublist).imp_of_mem ?_
      intro m n' hm hn' ⟨i, j, hij, hi, hj⟩
      have hkept : ∀ {m i}, m ∈ (ofHistory h).names.erase n → Arrives h m i →
          Arrives (h ++ [.remove n]) m i := by
        intro m i hm hi
        rw [(nodup_names_ofHistory h).mem_erase_iff] at hm
        exact arrives_concat.2 (.inl ⟨fun heq => hm.1 (Change.remove.inj heq).symm, hi⟩)
      exact ⟨i, j, hij, hkept hm hi, hkept hn' hj⟩

/-- The schema is the map of the history, in the order in which the names arrived. -/
structure MapsInOrder (h : List Change) (s : Schema) : Prop where
  distinct : s.names.Nodup
  /-- A name has the descriptor of its last insertion, unless it was removed after it. -/
  found : ∀ n d, s.get? n = some d ↔ Declares h n d
  /-- A removal gives what was found before it. -/
  removed : ∀ n, (s.remove n).1 = s.get? n
  /-- The fields that are listed are those that are found. -/
  listed : s.toList.map Prod.fst = s.names ∧ ∀ n d, (n, d) ∈ s.toList ↔ s.get? n = some d
  /-- The names stand in the order in which they arrived. -/
  order : s.names.Pairwise fun m n => ∃ i j, i < j ∧ Arrives h m i ∧ Arrives h n j
  /-- A name is there exactly if it has arrived, and it arrives at one place of the history. -/
  arrived : ∀ n, (n ∈ s.names ↔ ∃ i, Arrives h n i) ∧ ∀ i j, Arrives h n i → Arrives h n j → i = j
  size : s.size = s.toList.length ∧ (s.isEmpty = true ↔ s.toList = [])
  /-- A name that is inserted again keeps its place. -/
  replaced : ∀ n d, n ∈ s.names → (s.insert n d).names = s.names
  /-- A name that is removed first goes to the end. -/
  moved : ∀ n d, ((s.remove n).2.insert n d).names = s.names.filter (· ≠ n) ++ [n]
  /-- A change of a name leaves the others with their descriptors in their order. -/
  others : ∀ c : Change, (c.apply s).toList.filter (fun p => p.1 ≠ c.name) =
    s.toList.filter fun p => p.1 ≠ c.name

/-- Whatever the history, its schema is its map in the order of arrival. -/
theorem ofHistory_mapsInOrder (h : List Change) : MapsInOrder h (ofHistory h) where
  distinct := nodup_names_ofHistory h
  found _ _ := get?_ofHistory
  removed _ := fst_remove
  listed := ⟨by simp [toList, names], fun _ _ => mem_toList_iff (nodup_names_ofHistory h)⟩
  order := pairwise_names_ofHistory h
  arrived _ := ⟨mem_names_iff_arrives, fun _ _ hi hj => hi.unique hj⟩
  size := ⟨by simp [size, toList], by simp [isEmpty, toList]⟩
  replaced n d hn := by rw [names_insert, if_pos hn]
  moved _ _ := names_insert_remove (nodup_names_ofHistory h)
  others := filter_toList_apply _

example : (ofHistory [.insert "a" ⟨"string", {}⟩, .insert "b" ⟨"date", {}⟩, .insert "a" ⟨"number", {}⟩,
    .remove "c", .insert "c" ⟨"time", {}⟩, .remove "b", .insert "b" ⟨"object", {}⟩]).toList =
    [("a", ⟨"number", {}⟩), ("c", ⟨"time", {}⟩), ("b", ⟨"object", {}⟩)] := by
  decide +kernel

end Histories

end SqlAdapter.Schema
