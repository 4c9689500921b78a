import Mathlib.Logic.Basic
import SqlAdapter.Proofs.Filter.Grammar
import SqlAdapter.Sql.Evaluation

/-!
# Tests against lists

A field is tested against a list of values at once, or against the items of the list one by one. Both come
to the same but for null. On its own null is tested for; in a list it is a value to compare with, to which
nothing is equal and from which nothing is different. So an item null brings no row in, and where the
items are excluded it keeps every row out.
-/

set_option autoImplicit false

namespace SqlAdapter

@[simp] theorem Truth.ofBool_eq_true_iff {b : Bool} : ofBool b = .true ↔ b := by cases b <;> decide

namespace Comparison

variable {v w : Value}

theorem truth_null_ne_true (op : Comparison) (v : Value) : op.truth v .null ≠ .true := by
  simp [truth, Value.unlessNull]

theorem truth_ne_eq_not : Comparison.truth .ne v w = (Comparison.truth .eq v w).not := by
  unfold truth Value.unlessNull
  split
  · rfl
  · cases v.order w <;> rfl

end Comparison

namespace Sql

variable {v : Value} {ws : List Value}

/-- What is in a list is equal to a member of it. -/
theorem memberTruth_eq_true_iff :
    memberTruth v ws = .true ↔ ∃ w ∈ ws, Comparison.truth .eq v w = .true := by
  induction ws with
  | nil => simp [memberTruth]
  | cons w ws ih => simp [memberTruth, Truth.or_eq_true_iff, ih]

/-- What is not in a list is different from every member of it. -/
theorem not_memberTruth_eq_true_iff :
    (memberTruth v ws).not = .true ↔ ∀ w ∈ ws, Comparison.truth .ne v w = .true := by
  induction ws with
  | nil => simp [memberTruth, Truth.not]
  | cons w ws ih =>
    rw [memberTruth, Truth.not_or, Truth.and_eq_true_iff, ← Comparison.truth_ne_eq_not, ih,
      List.forall_mem_cons]

end Sql

namespace Filter

/-! ## Rows that pass -/

/-- The condition of a filter is true of a row with its operands as the database keeps them; `read` gives
the content of a column of the row. -/
def Passes (read : String → Value) (f : Filter) : Prop :=
  Sql.conditionTruth read f.condition (f.operands.map Value.stored) = .true

variable {read : String → Value} {field op : String} {x : Json} {a : Atom} {items : List Json}

theorem passes_atom_iff :
    Passes read (.atom a) ↔ a.test.truth read (a.operands.map Value.stored) = .true := by
  have hall : (a.operands.map Value.stored).take a.test.arity = a.operands.map Value.stored := by
    apply List.take_of_length_le
    apply Nat.le_of_eq
    rw [List.length_map, a.arity_test]
  have hoperands : operands (.atom a) = a.operands := List.append_nil _
  rw [Passes, hoperands]
  show a.test.truth read ((a.operands.map Value.stored).take a.test.arity) = .true ↔ _
  rw [hall]

theorem passes_isNull_iff : Passes read (.atom (.isNull field)) ↔ read field = .null := by
  simp [passes_atom_iff, Atom.test, Sql.Test.truth]

theorem passes_oneOf_iff {vs : List Value} :
    Passes read (.atom (.oneOf field vs)) ↔
      ∃ v ∈ vs, Comparison.truth .eq (read field) v.stored = .true := by
  rw [passes_atom_iff]
  cases vs with
  | nil => simp [Atom.test, Sql.Test.truth]
  | cons v vs =>
    show Sql.memberTruth (read field) ((v :: vs).map Value.stored) = .true ↔ _
    rw [Sql.memberTruth_eq_true_iff]
    simp only [List.mem_map, exists_exists_and_eq_and]

theorem passes_noneOf_iff {vs : List Value} :
    Passes read (.atom (.noneOf field vs)) ↔
      ∀ v ∈ vs, Comparison.truth .ne (read field) v.stored = .true := by
  rw [passes_atom_iff]
  cases vs with
  | nil => simp [Atom.test, Sql.Test.truth]
  | cons v vs =>
    show (Sql.memberTruth (read field) ((v :: vs).map Value.stored)).not = .true ↔ _
    rw [Sql.not_memberTruth_eq_true_iff, List.forall_mem_map]

/-! ## Single operands -/

theorem compareWith_of_ne_null (hx : x ≠ .null) (c : Comparison) :
    compareWith field c x = .compare field c (Value.ofJson x) := by
  cases x with
  | null => exact absurd rfl hx
  | bool | number | string | array | object => cases c <;> rfl

/-- A comparison with the value of an operand comes to a comparison with the operand, unless this is null. -/
theorem truth_ofJson_iff (c : Comparison) :
    c.truth (read field) (Value.ofJson x).stored = .true ↔
      x ≠ .null ∧ Passes read (.atom (compareWith field c x)) := by
  by_cases hx : x = .null
  · subst hx
    exact iff_of_false (c.truth_null_ne_true _) fun h => h.1 rfl
  · rw [and_iff_right hx, compareWith_of_ne_null hx, passes_atom_iff]
    rfl

theorem passes_among_iff :
    Passes read (.atom (.oneOf field (items.map Value.ofJson))) ↔
      ∃ x ∈ items, x ≠ .null ∧ Passes read (.atom (compareWith field .eq x)) := by
  rw [passes_oneOf_iff]
  simp only [List.mem_map, exists_exists_and_eq_and, truth_ofJson_iff]

theorem passes_outside_iff :
    Passes read (.atom (.noneOf field (items.map Value.ofJson))) ↔
      ∀ x ∈ items, x ≠ .null ∧ Passes read (.atom (compareWith field .ne x)) := by
  rw [passes_noneOf_iff, List.forall_mem_map]
  simp only [truth_ofJson_iff]

theorem not_passes_equal (hread : read field = .null) (hx : x ≠ .null) :
    ¬Passes read (.atom (compareWith field .eq x)) := by
  intro h
  have htruth := (truth_ofJson_iff .eq).2 ⟨hx, h⟩
  simp [hread, Comparison.truth, Value.unlessNull] at htruth

/-! ## Documents -/

/-- The document that tests one field by one operator. -/
def testing (field op : String) (operand : Json) : Json := .object [(field, .object [(op, operand)])]

theorem ofDocument_testing (hfield : isOperator field = false) (hop : isOperator op = true)
    (ha : ofOperator field op x = .ok a) : ofDocument (testing field op x) = .ok (some (.atom a)) := by
  have hcontent : ofField field (.object [(op, x)]) = .ok (.atom a) := by
    simp only [ofField, List.all_cons, List.all_nil, hop, ofOperators, ha]
    rfl
  rw [testing, ofDocument, ofMembers_cons, ofMember_of_field hfield, hcontent]
  rfl

/-- A row passes a list exactly if it passes the equality with an item other than null, and it passes an
excluding list exactly if none of its items is null and the row is different from all of them. So lists and
their items part ways only where null is an item: in the rows that have null, and, for an excluding list,
in those that are different from every item. -/
theorem lists_pass_iff (hfield : isOperator field = false) (items : List Json) :
    ∃ (among outside : Filter) (equal different : Json → Filter),
      ofDocument (testing field "$in" (.array items)) = .ok (some among) ∧
      ofDocument (testing field "$nin" (.array items)) = .ok (some outside) ∧
      (∀ x, ofDocument (testing field "$eq" x) = .ok (some (equal x)) ∧
        ofDocument (testing field "$ne" x) = .ok (some (different x))) ∧
      ∀ read : String → Value,
        (Passes read among ↔ ∃ x ∈ items, x ≠ .null ∧ Passes read (equal x)) ∧
        (Passes read outside ↔ ∀ x ∈ items, x ≠ .null ∧ Passes read (different x)) ∧
        ((Passes read among ↔ ∃ x ∈ items, Passes read (equal x)) ↔
          ¬(.null ∈ items ∧ read field = .null)) ∧
        ((Passes read outside ↔ ∀ x ∈ items, Passes read (different x)) ↔
          ¬(.null ∈ items ∧ ∀ x ∈ items, Passes read (different x))) := by
  refine ⟨.atom (.oneOf field (items.map Value.ofJson)), .atom (.noneOf field (items.map Value.ofJson)),
    fun x => .atom (compareWith field .eq x), fun x => .atom (compareWith field .ne x),
    ofDocument_testing hfield rfl rfl, ofDocument_testing hfield rfl rfl,
    fun x => ⟨ofDocument_testing hfield rfl rfl, ofDocument_testing hfield rfl rfl⟩, ?_⟩
  intro read
  refine ⟨passes_among_iff, passes_outside_iff, ?_, ?_⟩
  · rw [passes_among_iff]
    constructor
    · rintro h ⟨hnull, hread⟩
      obtain ⟨x, -, hx, hequal⟩ := h.2 ⟨.null, hnull, passes_isNull_iff.2 hread⟩
      exact not_passes_equal hread hx hequal
    · intro h
      constructor
      · rintro ⟨x, hmem, -, hequal⟩
        exact ⟨x, hmem, hequal⟩
      · rintro ⟨x, hmem, hequal⟩
        refine ⟨x, hmem, ?_, hequal⟩
        rintro rfl
        exact h ⟨hmem, passes_isNull_iff.1 hequal⟩
  · rw [passes_outside_iff]
    constructor
    · rintro h ⟨hnull, hall⟩
      exact (h.2 hall .null hnull).1 rfl
    · intro h
      constructor
      · intro hall x hmem
        exact (hall x hmem).2
      · intro hall x hmem
        refine ⟨?_, hall x hmem⟩
        rintro rfl
        exact h ⟨hmem, hall⟩

/-- An age that is in a list with null, a missing one, and an age that is not in the list. -/
theorem lists_pass_iff_ages :
    let items : List Json := [.ofNat 18, .null, .string "x"]
    let row (age : Value) : String → Value := fun c => if c = "age" then age else .null
    isOperator "age" = false ∧
      ∃ (among outside : Filter) (equal : Json → Filter),
        ofDocument (testing "age" "$in" (.array items)) = .ok (some among) ∧
        ofDocument (testing "age" "$nin" (.array items)) = .ok (some outside) ∧
        (∀ x, ofDocument (testing "age" "$eq" x) = .ok (some (equal x))) ∧
        Passes (row (.int 18)) among ∧
        ¬(Passes (row .null) among ↔ ∃ x ∈ items, Passes (row .null) (equal x)) ∧
        ¬Passes (row (.int 19)) outside := by
  intro items row
  have hfield : isOperator "age" = false := by decide
  have hnull : Json.null ∈ items := List.mem_cons_of_mem _ List.mem_cons_self
  obtain ⟨among, outside, equal, different, hamong, houtside, hsingle, hpass⟩ :=
    lists_pass_iff hfield items
  refine ⟨hfield, among, outside, equal, hamong, houtside, fun x => (hsingle x).1, ?_, ?_, ?_⟩
  · apply (hpass _).1.2
    have hequal : equal (.ofNat 18) = .atom (.compare "age" .eq (.int 18)) :=
      Option.some.inj (Except.ok.inj ((hsingle (.ofNat 18)).1.symm.trans rfl))
    refine ⟨.ofNat 18, List.mem_cons_self, nofun, ?_⟩
    rw [hequal, passes_atom_iff]
    decide +kernel
  · intro h
    exact (hpass _).2.2.1.1 h ⟨hnull, rfl⟩
  · intro h
    exact ((hpass _).2.1.1 h .null hnull).1 rfl

/-- A row with null passes the test for null, but not a list in which null stands; a row with a text is
different from null, but does not pass where a list with null is excluded. -/
theorem lists_miss_null :
    ∃ among outside equal different,
      ofDocument (testing "tag" "$in" (.array [.null])) = .ok (some among) ∧
      ofDocument (testing "tag" "$eq" .null) = .ok (some equal) ∧
      ofDocument (testing "tag" "$nin" (.array [.null])) = .ok (some outside) ∧
      ofDocument (testing "tag" "$ne" .null) = .ok (some different) ∧
      (Passes (fun _ => .null) equal ∧ ¬Passes (fun _ => .null) among) ∧
      Passes (fun _ => .text "x") different ∧ ¬Passes (fun _ => .text "x") outside :=
  ⟨_, _, _, _, rfl, rfl, rfl, rfl, ⟨rfl, fun h => nomatch h⟩, rfl, fun h => nomatch h⟩

end Filter

end SqlAdapter
