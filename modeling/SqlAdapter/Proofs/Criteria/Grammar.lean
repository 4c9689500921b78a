import SqlAdapter.Proofs.Filter.Meaning
import SqlAdapter.Proofs.Json.Ordered
import SqlAdapter.Proofs.Sorting

/-!
# Which documents state criteria

Criteria are stated by an object with at most four members, each with a grammar of its own. A member that
is null states what a missing one does. Of a sort no more is asked here than that it is an array or an
object: its entries are judged when the criteria become a statement.

Main statement: a document in key order states criteria exactly if it follows the grammar, these are put
together from what its members state, and otherwise it fails with the error of its first member that does
not follow it.
-/

set_option autoImplicit false

namespace SqlAdapter

namespace Keyed

variable {α : Type} {key : String} {m : String × α} {ms : List (String × α)}

theorem get?_concat : get? key (ms ++ [m]) = (get? key ms).or (if m.1 = key then some m.2 else none) := by
  rw [get?, List.find?_append]
  by_cases h : m.1 = key <;> cases hms : ms.find? fun m => decide (m.1 = key) <;> simp [get?, h, hms]

theorem get?_eq_none (h : ∀ m ∈ ms, m.1 ≠ key) : get? key ms = none := by
  rw [get?, Option.map_eq_none_iff, List.find?_eq_none]
  intro m hm
  simpa using h m hm

theorem Ascending.get?_of_mem (h : Ascending ms) (hm : m ∈ ms) : get? m.1 ms = some m.2 := by
  obtain ⟨before, after, rfl⟩ := List.append_of_mem hm
  have hbefore : ∀ y ∈ before, y.1 ≠ m.1 := by
    intro y hy heq
    have hlt := (List.pairwise_append.1 h).2.2 y hy m List.mem_cons_self
    exact String.lt_irrefl _ (heq ▸ hlt)
  have hnone : before.find? (fun y => decide (y.1 = m.1)) = none :=
    Option.map_eq_none_iff.1 (get?_eq_none hbefore)
  rw [get?, List.find?_append, hnone]
  simp

end Keyed

theorem Json.Number.toUInt64?_eq_some_iff {n : Json.Number} {k : UInt64} :
    n.toUInt64? = some k ↔ n = .integer (.ofUInt64 k) := by
  constructor
  · intro h
    cases n with
    | float x => cases h
    | integer n =>
      obtain ⟨val, lower, upper⟩ := n
      rw [toUInt64?, Option.ite_none_right_eq_some] at h
      obtain ⟨hnonneg, h⟩ := h
      replace hnonneg : 0 ≤ val := hnonneg
      have hk : k.toNat = val := by
        rw [← Option.some.inj h, UInt64.toNat_ofNat']
        show ((val.toNat % 2 ^ 64 : Nat) : Int) = val
        omega
      simp only [Json.Integer.ofUInt64, hk]
  · rintro rfl
    exact toUInt64?_ofUInt64

namespace Criteria

/-! ## The grammar -/

/-- What an object says under a key; nothing said is null. -/
def part (key : String) (ms : List (String × Json)) : Json := (Keyed.get? key ms).getD .null

/-- What states a sort, whatever its entries are, and what states that there is none. -/
inductive StatesSort : Json → Option SortSpec → Prop
  | none : StatesSort .null none
  | sequence (entries : List Json) : StatesSort (.array entries) (some (.sequence entries))
  | keyed (members : List (String × Json)) : StatesSort (.object members) (some (.keyed members))

/-- What states a number of rows, and what states that there is none. -/
inductive StatesCount : Json → Option UInt64 → Prop
  | none : StatesCount .null none
  | some (n : UInt64) : StatesCount (.number (.integer (.ofUInt64 n))) (some n)

def keys : List String := ["filter", "limit", "skip", "sort"]

/-- The members of a criteria document. -/
inductive IsMember : String → Json → Prop
  | filter {key : String} {x : Json} {o : Option Filter} (hkey : key = "filter")
    (h : Filter.ofDocument x = .ok o) : IsMember key x
  | count {key : String} {x : Json} {o : Option UInt64} (hkey : key = "limit" ∨ key = "skip")
    (h : StatesCount x o) : IsMember key x
  | sort {key : String} {x : Json} {o : Option SortSpec} (hkey : key = "sort") (h : StatesSort x o) :
    IsMember key x

/-- The criteria that an object states. -/
structure States (ms : List (String × Json)) (c : Criteria) : Prop where
  keys : ∀ m ∈ ms, m.1 ∈ Criteria.keys
  filter : Filter.ofDocument (part "filter" ms) = .ok c.filter
  limit : StatesCount (part "limit" ms) c.limit
  skip : StatesCount (part "skip" ms) c.skip
  sort : StatesSort (part "sort" ms) c.sort

/-- What is wrong with a member of a criteria document. -/
inductive MemberOffence : String → Json → CompileError → Prop
  | filter {key : String} {x : Json} {e : CompileError} (hkey : key = "filter")
    (h : Filter.ofDocument x = .error e) : MemberOffence key x e
  | count {key : String} {x : Json} (hkey : key = "limit" ∨ key = "skip") (h : ∀ o, ¬StatesCount x o) :
    MemberOffence key x (.invalidFilter (key ++ " must be a non-negative integer"))
  | sort {key : String} {x : Json} (hkey : key = "sort") (h : ∀ o, ¬StatesSort x o) :
    MemberOffence key x (.malformedSort x.compact)
  | unknown {key : String} {x : Json} (hkey : key ∉ keys) :
    MemberOffence key x (.invalidFilter ("unknown criteria key '" ++ key ++ "'"))

/-- What is wrong first with a criteria document. -/
inductive Offence : Json → CompileError → Prop
  | kind {x : Json} (h : ∀ ms, x ≠ .object ms) :
    Offence x (.invalidFilter ("criteria must be an object, got " ++ x.compact))
  | member {ms : List (String × Json)} {m : String × Json} {e : CompileError} (hm : m ∈ ms)
    (hbefore : ∀ y ∈ ms, y.1 < m.1 → IsMember y.1 y.2) (h : MemberOffence m.1 m.2 e) :
    Offence (.object ms) e

/-! ## One member -/

section Member

variable {c c' : Criteria} {key : String} {x : Json}

/-- Criteria with another number of rows under a key. -/
def withCount (c : Criteria) (key : String) (o : Option UInt64) : Criteria :=
  if key = "limit" then { c with limit := o } else { c with skip := o }

/-- What becomes of criteria with one more member. A null sort takes none away. -/
inductive Adds (c : Criteria) : String → Json → Criteria → Prop
  | filter {key : String} {x : Json} {o : Option Filter} (hkey : key = "filter")
    (h : Filter.ofDocument x = .ok o) : Adds c key x { c with filter := o }
  | count {key : String} {x : Json} {o : Option UInt64} (hkey : key = "limit" ∨ key = "skip")
    (h : StatesCount x o) : Adds c key x (c.withCount key o)
  | sort {key : String} {x : Json} {o : Option SortSpec} (hkey : key = "sort") (h : StatesSort x o) :
    Adds c key x { c with sort := o.or c.sort }

theorem exists_adds_iff (c : Criteria) : (∃ c', Adds c key x c') ↔ IsMember key x := by
  constructor
  · rintro ⟨c', h⟩
    cases h with
    | filter hkey h => exact .filter hkey h
    | count hkey h => exact .count hkey h
    | sort hkey h => exact .sort hkey h
  · intro h
    cases h with
    | filter hkey h => exact ⟨_, .filter hkey h⟩
    | count hkey h => exact ⟨_, .count hkey h⟩
    | sort hkey h => exact ⟨_, .sort hkey h⟩

theorem isMember_or_offence (key : String) (x : Json) :
    IsMember key x ∨ ∃ e, MemberOffence key x e := by
  by_cases hkey : key ∈ keys
  · have hcount (h : key = "limit" ∨ key = "skip") : IsMember key x ∨ ∃ e, MemberOffence key x e := by
      by_cases hx : ∃ o, StatesCount x o
      · exact .inl (.count h hx.choose_spec)
      · exact .inr ⟨_, .count h (not_exists.1 hx)⟩
    simp only [keys, List.mem_cons, List.not_mem_nil, or_false] at hkey
    rcases hkey with h | h | h | h
    · cases hx : Filter.ofDocument x with
      | ok o => exact .inl (.filter h hx)
      | error e => exact .inr ⟨e, .filter h hx⟩
    · exact hcount (.inl h)
    · exact hcount (.inr h)
    · by_cases hx : ∃ o, StatesSort x o
      · exact .inl (.sort h hx.choose_spec)
      · exact .inr ⟨_, .sort h (not_exists.1 hx)⟩
  · exact .inr ⟨_, .unknown hkey⟩

theorem computes_count (key : String) (x : Json) :
    Computes (count key x) (StatesCount x) fun e =>
      (∀ o, ¬StatesCount x o) ∧ e = .invalidFilter (key ++ " must be a non-negative integer") := by
  apply Computes.of_total
  · rintro _ (_ | n)
    · rfl
    · rw [count, Json.Number.toUInt64?_ofUInt64]
  · rintro _ ⟨hx, rfl⟩
    unfold count
    split
    · exact absurd .none (hx none)
    · split
      · next k hk =>
        rw [Json.Number.toUInt64?_eq_some_iff.1 hk] at hx
        exact absurd (.some k) (hx (some k))
      · rfl
    · rfl
  · by_cases hx : ∃ o, StatesCount x o
    · exact .inl hx
    · exact .inr ⟨_, not_exists.1 hx, rfl⟩

theorem StatesCount.unique {o o' : Option UInt64} (h : StatesCount x o) (h' : StatesCount x o') :
    o = o' :=
  (computes_count "" x).unique h h'

theorem StatesSort.unique {o o' : Option SortSpec} (h : StatesSort x o) (h' : StatesSort x o') :
    o = o' := by
  cases h <;> cases h' <;> rfl

theorem withMember_filter : c.withMember "filter" x =
    (Filter.ofDocument x).map fun o => { c with filter := o } := by
  rw [withMember]
  cases Filter.ofDocument x <;> rfl

theorem withMember_count (hkey : key = "limit" ∨ key = "skip") :
    c.withMember key x = (count key x).map (c.withCount key) := by
  rcases hkey with rfl | rfl <;>
    · rw [withMember]
      cases count _ x <;> rfl

theorem withMember_unknown (hkey : key ∉ keys) :
    c.withMember key x = .error (.invalidFilter ("unknown criteria key '" ++ key ++ "'")) := by
  unfold withMember
  split
  case h_5 => rfl
  all_goals exact absurd (by decide) hkey

theorem withMember_sort {o : Option SortSpec} (h : StatesSort x o) :
    c.withMember "sort" x = .ok { c with sort := o.or c.sort } := by
  cases h <;> rfl

theorem withMember_malformedSort (h : ∀ o, ¬StatesSort x o) :
    c.withMember "sort" x = .error (.malformedSort x.compact) := by
  cases x with
  | null => exact absurd .none (h none)
  | array entries => exact absurd (.sequence entries) (h _)
  | object members => exact absurd (.keyed members) (h _)
  | bool | number | string => rfl

theorem computes_member (c : Criteria) (key : String) (x : Json) :
    Computes (c.withMember key x) (Adds c key x) (MemberOffence key x) := by
  have hcount := computes_count key x
  apply Computes.of_total
  · intro c' h
    cases h with
    | filter hkey h =>
      rw [hkey, withMember_filter, h]
      rfl
    | count hkey h =>
      rw [withMember_count hkey, (hcount.ok_iff _).2 h]
      rfl
    | sort hkey h => rw [hkey, withMember_sort h]
  · intro e h
    cases h with
    | filter hkey h =>
      rw [hkey, withMember_filter, h]
      rfl
    | count hkey h =>
      rw [withMember_count hkey, (hcount.error_iff _).2 ⟨h, rfl⟩]
      rfl
    | sort hkey h => rw [hkey, withMember_malformedSort h]
    | unknown hkey => rw [withMember_unknown hkey]
  · rw [exists_adds_iff]
    exact isMember_or_offence key x

theorem decides_member (c : Criteria) (key : String) (x : Json) :
    Decides (c.withMember key x) (IsMember key x) (MemberOffence key x) :=
  (computes_member c key x).decides.congr (exists_adds_iff c) fun _ => Iff.rfl

end Member

/-! ## All members -/

section Members

variable {c c' : Criteria} {key k : String} {x : Json} {m : String × Json} {ms : List (String × Json)}

theorem part_concat (hnew : ∀ y ∈ ms, y.1 ≠ key) :
    part k (ms ++ [(key, x)]) = if key = k then x else part k ms := by
  rw [part, Keyed.get?_concat]
  split
  · next h =>
    subst h
    rw [Keyed.get?_eq_none hnew]
    rfl
  · rw [Option.or_none]
    rfl

theorem part_eq_null (hnew : ∀ y ∈ ms, y.1 ≠ key) : part key ms = .null := by
  rw [part, Keyed.get?_eq_none hnew]
  rfl

theorem part_of_mem (hms : Keyed.Ascending ms) (hm : m ∈ ms) : part m.1 ms = m.2 := by
  rw [part, hms.get?_of_mem hm]
  rfl

theorem States.empty : States [] ∅ where
  keys := List.forall_mem_nil _
  filter := rfl
  limit := .none
  skip := .none
  sort := .none

theorem States.concat (h : States ms c) (hnew : ∀ y ∈ ms, y.1 ≠ key) (hc : Adds c key x c') :
    States (ms ++ [(key, x)]) c' := by
  have hkeys (hkey : key ∈ Criteria.keys) : ∀ y ∈ ms ++ [(key, x)], y.1 ∈ Criteria.keys :=
    List.forall_mem_append.2 ⟨h.keys, List.forall_mem_singleton.2 hkey⟩
  have hpart (k : String) := part_concat (x := x) (k := k) hnew
  cases hc with
  | filter hkey hx =>
    subst hkey
    exact
      { keys := hkeys (by decide)
        filter := by simpa [hpart] using hx
        limit := by simpa [hpart] using h.limit
        skip := by simpa [hpart] using h.skip
        sort := by simpa [hpart] using h.sort }
  | count hkey hx =>
    rcases hkey with rfl | rfl
    · exact
        { keys := hkeys (by decide)
          filter := by simpa [hpart, withCount] using h.filter
          limit := by simpa [hpart, withCount] using hx
          skip := by simpa [hpart, withCount] using h.skip
          sort := by simpa [hpart, withCount] using h.sort }
    · exact
        { keys := hkeys (by decide)
          filter := by simpa [hpart, withCount] using h.filter
          limit := by simpa [hpart, withCount] using h.limit
          skip := by simpa [hpart, withCount] using hx
          sort := by simpa [hpart, withCount] using h.sort }
  | sort hkey hx =>
    subst hkey
    -- there is no sort yet that a null one could leave
    have hnone : c.sort = none := by
      have hsort := h.sort
      rw [part_eq_null hnew] at hsort
      exact hsort.unique .none
    exact
      { keys := hkeys (by decide)
        filter := by simpa [hpart] using h.filter
        limit := by simpa [hpart] using h.limit
        skip := by simpa [hpart] using h.skip
        sort := by simpa [hpart, hnone] using hx }

theorem states_of_ofDocument (hms : Keyed.Ascending ms) (h : ofDocument (.object ms) = .ok c) :
    States ms c := by
  induction ms using List.reverseRecOn generalizing c with
  | nil =>
    cases h
    exact .empty
  | append_singleton ms m ih =>
    obtain ⟨hms, -, hlast⟩ := List.pairwise_append.1 hms
    rw [ofDocument, List.foldlM_append] at h
    obtain ⟨c₀, h₀, h⟩ := Filter.bind_eq_ok_iff.1 h
    rw [List.foldlM_cons] at h
    obtain ⟨c₁, hm, h⟩ := Filter.bind_eq_ok_iff.1 h
    cases h
    apply (ih hms h₀).concat
    · intro y hy heq
      exact String.lt_irrefl _ (heq ▸ hlast y hy m (List.mem_singleton_self m))
    · exact ((computes_member c₀ m.1 m.2).ok_iff c).1 hm

theorem States.unique (h : States ms c) (h' : States ms c') : c = c' := by
  have hfilter := Except.ok.inj (h.filter.symm.trans h'.filter)
  have hlimit := h.limit.unique h'.limit
  have hskip := h.skip.unique h'.skip
  have hsort := h.sort.unique h'.sort
  cases c
  cases c'
  congr

theorem States.isMember (hms : Keyed.Ascending ms) (h : States ms c) : ∀ m ∈ ms, IsMember m.1 m.2 := by
  intro m hm
  have hpart := part_of_mem hms hm
  have hkey := h.keys m hm
  simp only [Criteria.keys, List.mem_cons, List.not_mem_nil, or_false] at hkey
  rcases hkey with hkey | hkey | hkey | hkey <;> rw [hkey] at hpart
  · exact .filter hkey (hpart ▸ h.filter)
  · exact .count (.inl hkey) (hpart ▸ h.limit)
  · exact .count (.inr hkey) (hpart ▸ h.skip)
  · exact .sort hkey (hpart ▸ h.sort)

theorem decides_members (hms : Keyed.Ascending ms) :
    Decides (ofDocument (.object ms)) (∀ m ∈ ms, IsMember m.1 m.2) fun e =>
      ∃ m ∈ ms, (∀ y ∈ ms, y.1 < m.1 → IsMember y.1 y.2) ∧ MemberOffence m.1 m.2 e :=
  .foldlM_ascending hms (fun c m _ => decides_member c m.1 m.2) ∅

theorem computes_members (hms : Keyed.Ascending ms) :
    Computes (ofDocument (.object ms)) (States ms) (Offence (.object ms)) where
  ok_iff c := by
    constructor
    · exact states_of_ofDocument hms
    · intro h
      obtain ⟨c', hc'⟩ := (decides_members hms).ok_iff.2 (h.isMember hms)
      rw [hc', h.unique (states_of_ofDocument hms hc')]
  error_iff e := by
    rw [(decides_members hms).error_iff]
    constructor
    · rintro ⟨m, hm, hbefore, h⟩
      exact .member hm hbefore h
    · intro h
      cases h with
      | kind hobject => exact absurd rfl (hobject ms)
      | member hm hbefore h => exact ⟨_, hm, hbefore, h⟩

theorem computes_document {j : Json} (hj : j.Ordered) :
    Computes (ofDocument j) (fun c => ∃ ms, j = .object ms ∧ States ms c) (Offence j) := by
  cases hj with
  | object hms =>
    apply (computes_members hms).congr
    · intro c
      constructor
      · exact fun h => ⟨_, rfl, h⟩
      · rintro ⟨ms, ⟨⟩, h⟩
        exact h
    · exact fun _ => Iff.rfl
  | null | bool | number | string | array =>
    apply Computes.of_total
    · rintro c ⟨ms, ⟨⟩, -⟩
    · rintro e ⟨⟩
      rfl
    · exact .inr ⟨_, .kind nofun⟩

end Members

/-! ## From criteria to a statement -/

section Compiled

variable {c : Criteria} {ms : List (String × Json)} {A : Prop} {O : CompileError → Prop}

/-- Only the order of criteria can keep them from becoming a statement. -/
theorem decides_select (h : Decides c.order A O) (d : Dialect) (table : String) :
    Decides (Statement.select d table c) A O := by
  have hselect : Statement.select d table c = c.order >>= fun order => .ok (.ofCommand d
      (.select ⟨table, c.filter.map Filter.condition, order, (Statement.page d c.limit c.skip).1,
        (Statement.page d c.limit c.skip).2⟩) ((c.filter.map Filter.operands).getD [])) := by
    rw [Statement.select, Statement.selectCommand_eq]
    cases c.order <;> rfl
  rw [hselect]
  exact h.map _

theorem decides_order {x : Json} (h : StatesSort x c.sort) :
    Decides c.order (∀ entries, x = .array entries → ∀ y ∈ entries, SortSpec.IsEntry y)
      fun e => ∃ entries, x = .array entries ∧ SortSpec.Malformed entries e := by
  rw [order]
  generalize c.sort = o at h ⊢
  cases h with
  | none => exact .ok nofun nofun
  | keyed members => exact .ok nofun nofun
  | sequence entries =>
    have hentries := (SortSpec.computes_sequence entries).decides
    apply hentries.congr
    · rw [← hentries.ok_iff, SortSpec.normalizes_sequence_iff]
      simp
    · simp

end Compiled

/-- A document in key order states criteria exactly if it is an object of the grammar, whose members they
are put together from, and otherwise fails with what is wrong first. The entries of its sort do not matter
before a statement is made, which they alone can prevent. -/
theorem ofDocument_states {j : Json} (hj : j.Ordered) :
    (∀ c, ofDocument j = .ok c ↔ ∃ ms, j = .object ms ∧ States ms c) ∧
    ((∃ c, ofDocument j = .ok c) ↔ ∃ ms, j = .object ms ∧ ∀ m ∈ ms, IsMember m.1 m.2) ∧
    (∀ e, ofDocument j = .error e ↔ Offence j e) ∧
    ∀ ms c, j = .object ms → ofDocument j = .ok c →
      (c.filter = none ↔ part "filter" ms = .null ∨ part "filter" ms = .object []) ∧
      ∀ d table,
        ((∃ s, Statement.select d table c = .ok s) ↔
          ∀ entries, part "sort" ms = .array entries → ∀ x ∈ entries, SortSpec.IsEntry x) ∧
        ∀ e, Statement.select d table c = .error e ↔
          ∃ entries, part "sort" ms = .array entries ∧ SortSpec.Malformed entries e := by
  have hdocument := computes_document hj
  refine ⟨hdocument.ok_iff, ?_, hdocument.error_iff, ?_⟩
  · constructor
    · rintro ⟨c, hc⟩
      obtain ⟨ms, rfl, -⟩ := (hdocument.ok_iff c).1 hc
      cases hj with
      | object hms => exact ⟨ms, rfl, (decides_members hms).ok_iff.1 ⟨c, hc⟩⟩
    · rintro ⟨ms, rfl, h⟩
      cases hj with
      | object hms => exact (decides_members hms).ok_iff.2 h
  · rintro ms c rfl hc
    cases hj with
    | object hms =>
      have h := states_of_ofDocument hms hc
      constructor
      · rw [← Filter.ofDocument_eq_none_iff, h.filter, Except.ok.injEq]
      · intro d table
        have hselect := decides_select (decides_order h.sort) d table
        exact ⟨hselect.ok_iff, hselect.error_iff⟩

/-- The greatest limit, a null member and a sort of which one entry has no direction are accepted, but make
no statement. A limit of negative zero is refused, after the filter and before an unknown key. -/
theorem ofDocument_states_people :
    let accepted : Json := .object
      [("filter", .object []), ("limit", .number (.integer (.ofUInt64 18446744073709551615))),
        ("skip", .null), ("sort", .array [.array [.string "age", .null], .array [.string "name"]])]
    let refused : Json := .object
      [("filter", .object [("age", .ofNat 18)]), ("limit", .number (.float ⟨0x8000000000000000⟩)),
        ("order", .null), ("sort", .string "age")]
    (∃ c, ofDocument accepted = .ok c ∧ c.filter = none ∧ c.limit = some 18446744073709551615 ∧
      c.skip = none ∧ ∀ d, Statement.select d "people" c = .error (.malformedSort "[\"name\"]")) ∧
    ofDocument refused = .error (.invalidFilter "limit must be a non-negative integer") := by
  intro accepted refused
  constructor
  · have hordered : accepted.Ordered := Json.Written.ordered_of_denotes?
      (show Json.Written.denotes? 3 accepted.written = some accepted from rfl)
    obtain ⟨hstates, -, -, hmade⟩ := ofDocument_states hordered
    let entries : List Json := [.array [.string "age", .null], .array [.string "name"]]
    have hok : ofDocument accepted =
        .ok ⟨none, some (.sequence entries), some 18446744073709551615, none⟩ :=
      (hstates _).2 ⟨_, rfl,
        { keys := by decide, filter := rfl, limit := .some _, skip := .none, sort := .sequence _ }⟩
    refine ⟨_, hok, rfl, rfl, rfl, ?_⟩
    intro d
    have hname : ¬SortSpec.IsEntry (.array [.string "name"]) := by
      rintro ⟨field, j, h⟩
      cases h
    exact (((hmade _ _ rfl hok).2 d "people").2 _).2 ⟨entries, rfl, [_], _, [],
      rfl, List.forall_mem_singleton.2 ⟨_, _, rfl⟩, hname, by decide +kernel⟩
  · have hordered : refused.Ordered := Json.Written.ordered_of_denotes?
      (show Json.Written.denotes? 3 refused.written = some refused from rfl)
    have hzero : ∀ o, ¬StatesCount (.number (.float ⟨0x8000000000000000⟩)) o := nofun
    obtain ⟨-, -, hoffence, -⟩ := ofDocument_states hordered
    apply (hoffence _).2
    apply Offence.member (m := ("limit", .number (.float ⟨0x8000000000000000⟩)))
      (List.mem_cons_of_mem _ List.mem_cons_self) _ (.count (.inl rfl) hzero)
    intro y hy hlt
    have hage : Filter.ofDocument (.object [("age", .ofNat 18)]) = .ok _ := rfl
    simp only [List.mem_cons, List.not_mem_nil, or_false] at hy
    rcases hy with rfl | rfl | rfl | rfl
    · exact .filter rfl hage
    all_goals exact absurd hlt (by decide)

end Criteria

end SqlAdapter
