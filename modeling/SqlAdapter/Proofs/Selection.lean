import SqlAdapter.Proofs.Sql.Reading
import SqlAdapter.Statement

/-!
# What a selection shows

The text and the values of a selection together show its table, its filter, its order and its page. A
test against an empty list is written as a constant, so its field alone is not shown; `Filter.shown` is
a filter without such fields. A page is shown but for one case: where a dialect writes a number for no
limit, a limit of that very number is written alike.
-/

set_option autoImplicit false

namespace SqlAdapter

namespace Filter

/-- The atom without the field of a test against an empty list. -/
def Atom.shown : Atom → Atom
  | oneOf _ [] => oneOf "" []
  | noneOf _ [] => noneOf "" []
  | a => a

/-- The filter without the fields of its tests against empty lists. -/
def shown (f : Filter) : Filter := f.map Atom.shown

/-- The atom of a test with values for its placeholders. -/
def Atom.ofTest : Sql.Test → List Value → Option Atom
  | .compare f op, [v] => some (compare f op v)
  | .isNull f, [] => some (isNull f)
  | .isNotNull f, [] => some (isNotNull f)
  | .isIn f _, vs => some (oneOf f vs)
  | .notIn f _, vs => some (noneOf f vs)
  | .like f, [.text pattern] => some (like f pattern)
  | .between f, [low, high] => some (between f low high)
  | .constant false, [] => some (oneOf "" [])
  | .constant true, [] => some (noneOf "" [])
  | _, _ => none

theorem Atom.ofTest_test (a : Atom) : ofTest a.test a.operands = some a.shown := by
  cases a with
  | oneOf f vs => cases vs <;> rfl
  | noneOf f vs => cases vs <;> rfl
  | _ => rfl

@[simp] theorem Atom.test_shown (a : Atom) : a.shown.test = a.test := by
  cases a with
  | oneOf f vs => cases vs <;> rfl
  | noneOf f vs => cases vs <;> rfl
  | _ => rfl

@[simp] theorem Atom.operands_shown (a : Atom) : a.shown.operands = a.operands := by
  cases a with
  | oneOf f vs => cases vs <;> rfl
  | noneOf f vs => cases vs <;> rfl
  | _ => rfl

theorem Atom.shown_eq_of_test {a b : Atom} (ht : a.test = b.test)
    (ho : a.operands = b.operands) : a.shown = b.shown := by
  have h := a.ofTest_test
  rw [ht, ho, b.ofTest_test] at h
  exact (Option.some.inj h).symm

variable {f g : Filter}

@[simp] theorem condition_shown (f : Filter) : condition (shown f) = condition f := by
  induction f with
  | atom a => exact congrArg Formula.atom a.test_shown
  | and l r hl hr =>
    show Formula.and (condition (shown l)) (condition (shown r)) = _
    rw [hl, hr]
    rfl
  | or l r hl hr =>
    show Formula.or (condition (shown l)) (condition (shown r)) = _
    rw [hl, hr]
    rfl
  | not f h => exact congrArg Formula.not h

@[simp] theorem operands_shown (f : Filter) : operands (shown f) = operands f := by
  simp [shown, operands, List.flatMap_map]

/-- The operands of two parts side by side fall to the parts by their conditions. -/
theorem operands_append_inj {f' g' : Filter} (hc : condition f = condition f')
    (h : operands f ++ operands g = operands f' ++ operands g') :
    operands f = operands f' ∧ operands g = operands g' := by
  apply List.append_inj h
  rw [← arityOf_condition, ← arityOf_condition, hc]

theorem shown_eq_of_condition (hc : condition f = condition g) (ho : operands f = operands g) :
    shown f = shown g := by
  induction f generalizing g with
  | atom a =>
    cases g with
    | atom b =>
      have hv : a.operands = b.operands := by simpa [operands, Formula.atoms] using ho
      exact congrArg Formula.atom (Atom.shown_eq_of_test (Formula.atom.inj hc) hv)
    | _ => simp [condition, Formula.map] at hc
  | and l r hl hr =>
    cases g with
    | and l' r' =>
      obtain ⟨hcl, hcr⟩ := Formula.and.inj hc
      obtain ⟨hol, hor⟩ := operands_append_inj hcl (by simpa using ho)
      show Formula.and (shown l) (shown r) = Formula.and (shown l') (shown r')
      rw [hl hcl hol, hr hcr hor]
    | _ => simp [condition, Formula.map] at hc
  | or l r hl hr =>
    cases g with
    | or l' r' =>
      obtain ⟨hcl, hcr⟩ := Formula.or.inj hc
      obtain ⟨hol, hor⟩ := operands_append_inj hcl (by simpa using ho)
      show Formula.or (shown l) (shown r) = Formula.or (shown l') (shown r')
      rw [hl hcl hol, hr hcr hor]
    | _ => simp [condition, Formula.map] at hc
  | not f hf =>
    cases g with
    | not g => exact congrArg Formula.not (hf (Formula.not.inj hc) ho)
    | _ => simp [condition, Formula.map] at hc

theorem shown_eq_iff :
    shown f = shown g ↔ condition f = condition g ∧ operands f = operands g := by
  constructor
  · intro h
    exact ⟨by rw [← condition_shown f, h, condition_shown],
      by rw [← operands_shown f, h, operands_shown]⟩
  · rintro ⟨hc, ho⟩
    exact shown_eq_of_condition hc ho

theorem map_shown_eq_iff {o o' : Option Filter} :
    o.map shown = o'.map shown ↔
      o.map condition = o'.map condition ∧ (o.map operands).getD [] = (o'.map operands).getD [] := by
  cases o <;> cases o' <;> simp [shown_eq_iff]

end Filter

/-- A number of rows is written like no limit only where no limit is written as that number. -/
theorem Dialect.unbounded?_eq_toNat_iff {d : Dialect} {n : UInt64} :
    d.unbounded? = some (n.toNat : Int) ↔ d = .mysql ∧ n = 18446744073709551615 := by
  cases d with
  | generic => simp [unbounded?]
  | mysql =>
    simp only [unbounded?, Option.some.injEq, true_and, ← UInt64.toNat_inj]
    show (18446744073709551615 : Int) = n.toNat ↔ n.toNat = 18446744073709551615
    omega
  | sqlite =>
    have h : (-1 : Int) ≠ n.toNat := by omega
    simp [unbounded?, h]

/-- The fields of the criteria's sort with their directions; none without a sort. -/
def Criteria.order (c : Criteria) : Except CompileError (List (String × Direction)) :=
  match c.sort with
  | some s => s.normalize
  | none => .ok []

namespace Statement

variable {d : Dialect} {t : String} {c : Criteria} {s : Statement}

theorem selectCommand_eq :
    selectCommand d t c = c.order.map fun o => ⟨t, c.filter.map Filter.condition, o,
      (page d c.limit c.skip).1, (page d c.limit c.skip).2⟩ := by
  unfold selectCommand Criteria.order
  cases c.sort with
  | none => rfl
  | some sort => cases sort.normalize <;> rfl

theorem select_eq_ok_iff :
    select d t c = .ok s ↔ ∃ o, c.order = .ok o ∧
      s = ofCommand d (.select ⟨t, c.filter.map Filter.condition, o, (page d c.limit c.skip).1,
        (page d c.limit c.skip).2⟩) ((c.filter.map Filter.operands).getD []) := by
  unfold select
  rw [selectCommand_eq]
  cases ho : c.order with
  | error e => simp [Except.map, bind, Except.bind]
  | ok o => simp [Except.map, bind, Except.bind, eq_comm]

theorem ofCommand_select_inj {q q' : Sql.Select} {vs vs' : List Value} :
    ofCommand d (.select q) vs = ofCommand d (.select q') vs' ↔ q = q' ∧ vs = vs' := by
  constructor
  · intro h
    obtain ⟨ht, hv⟩ := Statement.mk.inj h
    exact ⟨Sql.Select.chars_injective (String.ofList_injective ht), hv⟩
  · rintro ⟨rfl, rfl⟩
    rfl

theorem page_eq_iff {l l' k k' : Option UInt64} :
    page d l k = page d l' k' ↔ k = k' ∧ (l = l' ∨ d = .mysql ∧ k.isSome ∧
      (l = none ∧ l' = some 18446744073709551615 ∨ l = some 18446744073709551615 ∧ l' = none)) := by
  have hn : ∀ m n : UInt64, ((m.toNat : Int) = n.toNat ↔ m = n) := by
    intro m n
    rw [Int.natCast_inj, UInt64.toNat_inj]
  cases k with
  | none =>
    cases k' with
    | some b => cases l <;> cases l' <;> simp [page]
    | none => cases l <;> cases l' <;> simp [page, hn]
  | some a =>
    cases k' with
    | none => cases l <;> cases l' <;> simp [page]
    | some b =>
      cases l with
      | none =>
        cases l' with
        | none => simp [page, UInt64.toNat_inj]
        | some n => simp [page, UInt64.toNat_inj, Dialect.unbounded?_eq_toNat_iff, and_comm]
      | some m =>
        cases l' with
        | none =>
          simp [page, UInt64.toNat_inj, eq_comm (a := some (m.toNat : Int)),
            Dialect.unbounded?_eq_toNat_iff, and_comm]
        | some n => simp [page, UInt64.toNat_inj, hn, and_comm]

/-- The text and the values of two selections agree exactly if their tables, filters, orders and pages
do, but for a limit that is written like no limit. -/
theorem select_eq_select_iff {t' : String} {c' : Criteria} {s' : Statement}
    (h : select d t c = .ok s) (h' : select d t' c' = .ok s') :
    s = s' ↔
      t = t' ∧ c.filter.map Filter.shown = c'.filter.map Filter.shown ∧ c.order = c'.order ∧
      c.skip = c'.skip ∧ (c.limit = c'.limit ∨ d = .mysql ∧ c.skip.isSome ∧
        (c.limit = none ∧ c'.limit = some 18446744073709551615 ∨
          c.limit = some 18446744073709551615 ∧ c'.limit = none)) := by
  obtain ⟨o, ho, rfl⟩ := select_eq_ok_iff.1 h
  obtain ⟨o', ho', rfl⟩ := select_eq_ok_iff.1 h'
  have hpage : page d c.limit c.skip = page d c'.limit c'.skip ↔ _ := page_eq_iff
  rw [Prod.ext_iff] at hpage
  rw [ofCommand_select_inj, Sql.Select.mk.injEq, Filter.map_shown_eq_iff, ← hpage, ho, ho',
    Except.ok.injEq]
  constructor
  · rintro ⟨⟨ht, hc, horder, hlimit, hoffset⟩, hv⟩
    exact ⟨ht, ⟨hc, hv⟩, horder, hlimit, hoffset⟩
  · rintro ⟨ht, ⟨hc, hv⟩, horder, hlimit, hoffset⟩
    exact ⟨⟨ht, hc, horder, hlimit, hoffset⟩, hv⟩

/-- Two selections that differ in the field of an empty list and in their limits, and show neither. -/
theorem select_eq_select_unbounded :
    let among (field : String) : Filter :=
      .not (.and (.atom (.oneOf field [])) (.or (.atom (.between "a) AND (b" .null (.int 3)))
        (.atom (.noneOf "\x60?" [.text "x", .bool true]))))
    let sort := SortSpec.ordered [("age", -1), ("age", 1)]
    ∃ s s', select .mysql "t\x60" ⟨some (among "x"), some sort, none, some 5⟩ = .ok s ∧
      select .mysql "t\x60" ⟨some (among "y"), some sort, some 18446744073709551615, some 5⟩ = .ok s' ∧
      s = s' := by
  intro among sort
  have h : select .mysql "t\x60" ⟨some (among "x"), some sort, none, some 5⟩ = .ok _ :=
    select_eq_ok_iff.2 ⟨_, SortSpec.normalize_ordered _, rfl⟩
  have h' : select .mysql "t\x60"
      ⟨some (among "y"), some sort, some 18446744073709551615, some 5⟩ = .ok _ :=
    select_eq_ok_iff.2 ⟨_, SortSpec.normalize_ordered _, rfl⟩
  exact ⟨_, _, h, h', (select_eq_select_iff h h').2
    ⟨rfl, rfl, rfl, rfl, .inr ⟨rfl, rfl, .inl ⟨rfl, rfl⟩⟩⟩⟩

end Statement

end SqlAdapter
