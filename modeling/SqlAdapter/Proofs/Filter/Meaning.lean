import SqlAdapter.Filter.Document
import SqlAdapter.Statement

/-!
# What a filter document means

A document is read part by part: its members all together, the branches under `$and` and `$or`, what is
under `$not`, and each test of a field by an operator. A plain value is a test for equality. A `Reading`
says what to make of the parts; one reading gives the truth of a document, another lists its operands.

Every reading that follows how filters are put together can be taken off the filter that a document
states.
-/

set_option autoImplicit false

namespace SqlAdapter

namespace Truth

def all (as : List Truth) : Truth := as.foldr and .true

def any (as : List Truth) : Truth := as.foldr or .false

end Truth

namespace Formula

variable {α β : Type} {φ : Formula α → β} {fs : List (Formula α)} {f : Formula α}

/-- What turns a connective into an associative operation turns a chain into a list of its parts. -/
theorem map_foldl {op : Formula α → Formula α → Formula α} {mul : β → β → β} {one : β}
    (hop : ∀ f g, φ (op f g) = mul (φ f) (φ g)) (hassoc : ∀ a b c, mul (mul a b) c = mul a (mul b c))
    (hone : ∀ a, mul a one = a) (f : Formula α) :
    φ (fs.foldl op f) = ((f :: fs).map φ).foldr mul one := by
  induction fs generalizing f with
  | nil => exact (hone _).symm
  | cons g fs ih =>
    rw [List.foldl_cons, ih]
    simp only [List.map_cons, List.foldr_cons, hop, hassoc]

theorem eq_foldl_of_conjunction? (h : conjunction? fs = some f) :
    ∃ g gs, fs = g :: gs ∧ f = gs.foldl and g := by
  cases fs with
  | nil => cases h
  | cons g gs => exact ⟨g, gs, rfl, (Option.some.inj h).symm⟩

theorem eq_foldl_of_disjunction? (h : disjunction? fs = some f) :
    ∃ g gs, fs = g :: gs ∧ f = gs.foldl or g := by
  cases fs with
  | nil => cases h
  | cons g gs => exact ⟨g, gs, rfl, (Option.some.inj h).symm⟩

end Formula

namespace Filter

/-- What to make of the parts of a document. -/
structure Reading (α : Type) where
  test (field op : String) (operand : Json) : α
  all : List α → α
  any : List α → α
  negation : α → α

namespace Reading

variable {α : Type} (R : Reading α)

/-- An object with operators tests the field by each of them. -/
def readField (field : String) : Json → α
  | .object ms =>
    if ms.any fun m => isOperator m.1 then R.all (ms.map fun m => R.test field m.1 m.2)
    else R.test field "$eq" (.object ms)
  | x => R.test field "$eq" x

mutual

def read : Json → α
  | .object ms => R.all (readMembers ms)
  | _ => R.all []

def readMembers : List (String × Json) → List α
  | [] => []
  | (key, x) :: ms =>
    (match key, x with
      | "$and", .array items => R.all (readBranches items)
      | "$or", .array items => R.any (readBranches items)
      | "$not", x => R.negation (read x)
      | field, x => R.readField field x) :: readMembers ms

def readBranches : List Json → List α
  | [] => []
  | x :: xs => read x :: readBranches xs

end

/-- The truth of a document, given the truth of each test. -/
def truth (value : Atom → Truth) : Reading Truth where
  test field
    | "$eq", .null | "$exists", .bool false => value (.isNull field)
    | "$ne", .null | "$exists", .bool true => value (.isNotNull field)
    | "$eq", x => value (.compare field .eq (Value.ofJson x))
    | "$ne", x => value (.compare field .ne (Value.ofJson x))
    | "$gt", x => value (.compare field .gt (Value.ofJson x))
    | "$gte", x => value (.compare field .gte (Value.ofJson x))
    | "$lt", x => value (.compare field .lt (Value.ofJson x))
    | "$lte", x => value (.compare field .lte (Value.ofJson x))
    | "$in", .array xs => value (.oneOf field (xs.map Value.ofJson))
    | "$nin", .array xs => value (.noneOf field (xs.map Value.ofJson))
    | "$like", .string pattern => value (.like field pattern)
    | _, _ => .unknown
  all := Truth.all
  any := Truth.any
  negation := Truth.not

/-- The operands of a document in its order; a list has one for each item, a test for null has none. -/
def operands : Reading (List Value) where
  test _
    | "$eq", .null | "$ne", .null | "$exists", _ => []
    | "$in", .array xs | "$nin", .array xs => xs.map Value.ofJson
    | _, x => [Value.ofJson x]
  all := List.flatten
  any := List.flatten
  negation := id

/-- A measure of filters that goes along with a reading at every step by which filters are built. -/
structure Follows (R : Reading α) (φ : Filter → α) : Prop where
  test {field op : String} {x : Json} {a : Atom} (h : ofOperator field op x = .ok a) :
    φ (.atom a) = R.test field op x
  conjunction {fs : List Filter} {f : Filter} (h : Formula.conjunction? fs = some f) :
    φ f = R.all (fs.map φ)
  disjunction {fs : List Filter} {f : Filter} (h : Formula.disjunction? fs = some f) :
    φ f = R.any (fs.map φ)
  negation (f : Filter) : φ (.not f) = R.negation (φ f)

end Reading

section Tests

variable {field op : String} {x : Json} {a : Atom}

/-- The tests that operators state. -/
inductive Tests (field : String) : String → Json → Atom → Prop
  | compared {op : String} {x : Json} {c : Comparison} (h : comparison? op = some c) :
    Tests field op x (compareWith field c x)
  | oneOf {xs : List Json} : Tests field "$in" (.array xs) (.oneOf field (xs.map Value.ofJson))
  | noneOf {xs : List Json} : Tests field "$nin" (.array xs) (.noneOf field (xs.map Value.ofJson))
  | like {pattern : String} : Tests field "$like" (.string pattern) (.like field pattern)
  | present : Tests field "$exists" (.bool true) (.isNotNull field)
  | absent : Tests field "$exists" (.bool false) (.isNull field)

theorem tests_of_ofOperator (h : ofOperator field op x = .ok a) : Tests field op x a := by
  unfold ofOperator at h
  split at h
  · case h_1 c hc =>
    cases h
    exact .compared hc
  · split at h <;> cases h
    · exact .oneOf
    · exact .noneOf
    · exact .like
    · exact .present
    · exact .absent

theorem truth_follows (value : Atom → Truth) :
    (Reading.truth value).Follows (Formula.truth value) where
  test {_ _ x _} h := by
    cases tests_of_ofOperator h with
    | compared hc =>
      unfold comparison? at hc
      split at hc <;> cases hc <;> cases x <;> rfl
    | oneOf | noneOf | like | present | absent => rfl
  conjunction h := by
    obtain ⟨g, gs, rfl, rfl⟩ := Formula.eq_foldl_of_conjunction? h
    exact Formula.map_foldl (fun _ _ => rfl) Truth.and_assoc Truth.and_true g
  disjunction h := by
    obtain ⟨g, gs, rfl, rfl⟩ := Formula.eq_foldl_of_disjunction? h
    exact Formula.map_foldl (fun _ _ => rfl) Truth.or_assoc Truth.or_false g
  negation _ := rfl

theorem flatten_eq_foldr {α : Type} (ls : List (List α)) : ls.flatten = ls.foldr (· ++ ·) [] := by
  simpa using (@List.foldr_append_eq_append _ _ ls id []).symm

theorem operands_follows : Reading.operands.Follows operands where
  test {_ _ x _} h := by
    cases tests_of_ofOperator h with
    | compared hc =>
      unfold comparison? at hc
      split at hc <;> cases hc <;> cases x <;> rfl
    | oneOf => simp [Reading.operands, operands, Formula.atoms, Atom.operands]
    | noneOf => simp [Reading.operands, operands, Formula.atoms, Atom.operands]
    | like | present | absent => rfl
  conjunction h := by
    obtain ⟨g, gs, rfl, rfl⟩ := Formula.eq_foldl_of_conjunction? h
    rw [Formula.map_foldl operands_and List.append_assoc List.append_nil, ← flatten_eq_foldr]
    rfl
  disjunction h := by
    obtain ⟨g, gs, rfl, rfl⟩ := Formula.eq_foldl_of_disjunction? h
    rw [Formula.map_foldl operands_or List.append_assoc List.append_nil, ← flatten_eq_foldr]
    rfl
  negation := operands_not

end Tests

section Documents

variable {key : String} {x : Json} {f : Filter} {fs : List Filter} {ms : List (String × Json)}

theorem bind_eq_ok_iff {ε α β : Type} {r : Except ε α} {k : α → Except ε β} {b : β} :
    r >>= k = .ok b ↔ ∃ a, r = .ok a ∧ k a = .ok b := by
  cases r with
  | error e => simp [bind, Except.bind]
  | ok a => simp [bind, Except.bind]

theorem eq_some_of_required {what : String} {o : Option Filter} (h : required what o = .ok f) :
    o = some f := by
  cases o with
  | none => cases h
  | some g => rw [Except.ok.inj h]

/-- What a member of a document states. -/
inductive Member (key : String) : Json → Filter → Prop
  | conjunction {items : List Json} {fs : List Filter} {f : Filter} (hkey : key = "$and")
    (hfs : ofBranches key items = .ok fs) (hf : Formula.conjunction? fs = some f) :
    Member key (.array items) f
  | disjunction {items : List Json} {fs : List Filter} {f : Filter} (hkey : key = "$or")
    (hfs : ofBranches key items = .ok fs) (hf : Formula.disjunction? fs = some f) :
    Member key (.array items) f
  | negation {x : Json} {f : Filter} (hkey : key = "$not") (hf : ofDocument x = .ok (some f)) :
    Member key x (.not f)
  | field {x : Json} {f : Filter} (hkey : isOperator key = false) (hf : ofField key x = .ok f) :
    Member key x f

theorem member_of_ofMembers (h : ofMembers ((key, x) :: ms) = .ok fs) :
    ∃ f gs, Member key x f ∧ ofMembers ms = .ok gs ∧ fs = f :: gs := by
  unfold ofMembers at h
  split at h
  · case isTrue hor =>
    split at h
    · cases h
    · obtain ⟨branches, hbranches, h⟩ := bind_eq_ok_iff.1 h
      obtain ⟨f, hf, h⟩ := bind_eq_ok_iff.1 h
      obtain ⟨gs, hgs, h⟩ := bind_eq_ok_iff.1 h
      refine ⟨f, gs, ?_, hgs, (Except.ok.inj h).symm⟩
      have hf := eq_some_of_required hf
      split at hf
      · case isTrue hkey => exact .conjunction hkey hbranches hf
      · case isFalse hkey => exact .disjunction (hor.resolve_left hkey) hbranches hf
    · cases h
  · split at h
    · case isTrue hkey =>
      obtain ⟨o, ho, h⟩ := bind_eq_ok_iff.1 h
      obtain ⟨f, hf, h⟩ := bind_eq_ok_iff.1 h
      obtain ⟨_, ⟨⟩, h⟩ := bind_eq_ok_iff.1 h
      obtain ⟨gs, hgs, h⟩ := bind_eq_ok_iff.1 h
      rw [eq_some_of_required hf] at ho
      exact ⟨.not f, gs, .negation hkey ho, hgs, (Except.ok.inj h).symm⟩
    · split at h
      · cases h
      · case isFalse hkey =>
        obtain ⟨f, hf, h⟩ := bind_eq_ok_iff.1 h
        obtain ⟨gs, hgs, h⟩ := bind_eq_ok_iff.1 h
        exact ⟨f, gs, .field (by simpa using hkey) hf, hgs, (Except.ok.inj h).symm⟩

end Documents

-- The three functions that read a document call one another, so what a measure makes of a document, of
-- its members and of its branches is proved together; a member is taken apart by `Member` first.
namespace Reading.Follows

variable {α : Type} {R : Reading α} {φ : Filter → α} {key : String} {x : Json} {f : Filter}
  {fs : List Filter} {ms : List (String × Json)}

theorem operators (hR : R.Follows φ) (h : ofOperators key ms = .ok fs) :
    fs.map φ = ms.map fun m => R.test key m.1 m.2 := by
  induction ms generalizing fs with
  | nil =>
    cases h
    rfl
  | cons m ms ih =>
    rw [ofOperators] at h
    obtain ⟨a, ha, h⟩ := bind_eq_ok_iff.1 h
    obtain ⟨gs, hgs, h⟩ := bind_eq_ok_iff.1 h
    cases h
    rw [List.map_cons, List.map_cons, hR.test ha, ih hgs]

theorem field (hR : R.Follows φ) (h : ofField key x = .ok f) : φ f = R.readField key x := by
  have plain (x : Json) : φ (ofPlain key x) = R.test key "$eq" x := hR.test rfl
  unfold ofField at h
  split at h
  · case h_1 ms =>
    split at h
    · case isTrue hms =>
      cases h
      rw [readField, if_neg (by simpa using hms), plain]
    · case isFalse hms =>
      split at h
      · obtain ⟨gs, hgs, h⟩ := bind_eq_ok_iff.1 h
        have hf := Except.ok.inj h
        have hparts := hR.operators hgs
        rw [readField, if_pos (by simpa using hms), ← hparts, ← hf]
        cases gs with
        | nil =>
          have hempty : ms = [] := List.map_eq_nil_iff.1 hparts.symm
          simp [hempty] at hms
        | cons g gs => exact hR.conjunction rfl
      · cases h
  · case h_2 hx =>
    rw [← Except.ok.inj h, plain]
    cases x with
    | object ms => exact absurd rfl (hx ms)
    | _ => rfl

mutual

theorem document (hR : R.Follows φ) : ∀ {j : Json} {f : Filter},
    ofDocument j = .ok (some f) → φ f = R.read j
  | .object ms, f, h => by
    rw [ofDocument] at h
    obtain ⟨fs, hfs, h⟩ := bind_eq_ok_iff.1 h
    rw [hR.conjunction (Except.ok.inj h), hR.members hfs, Reading.read]
  | .null, f, h | .bool _, f, h | .number _, f, h | .string _, f, h | .array _, f, h => by
    simp [ofDocument, invalid] at h

theorem members (hR : R.Follows φ) : ∀ {ms : List (String × Json)} {fs : List Filter},
    ofMembers ms = .ok fs → fs.map φ = R.readMembers ms
  | [], fs, h => by
    cases h
    rfl
  | (key, x) :: ms, fs, h => by
    obtain ⟨f, gs, hf, hgs, rfl⟩ := member_of_ofMembers h
    have rest := hR.members hgs
    cases hf with
    | conjunction hkey hfs hf =>
      subst hkey
      rw [List.map_cons, rest, Reading.readMembers, hR.conjunction hf, hR.branches hfs]
    | disjunction hkey hfs hf =>
      subst hkey
      rw [List.map_cons, rest, Reading.readMembers, hR.disjunction hf, hR.branches hfs]
    | negation hkey hf =>
      subst hkey
      rw [List.map_cons, rest, Reading.readMembers, hR.negation, hR.document hf]
    | field hkey hf =>
      rw [List.map_cons, rest, Reading.readMembers, hR.field hf]
      · rintro rfl
        cases hkey
      · rintro _ rfl
        cases hkey
      · rintro _ rfl
        cases hkey

theorem branches (hR : R.Follows φ) {key : String} : ∀ {items : List Json} {fs : List Filter},
    ofBranches key items = .ok fs → fs.map φ = R.readBranches items
  | [], fs, h => by
    cases h
    rfl
  | x :: xs, fs, h => by
    rw [ofBranches] at h
    obtain ⟨o, ho, h⟩ := bind_eq_ok_iff.1 h
    obtain ⟨f, hf, h⟩ := bind_eq_ok_iff.1 h
    obtain ⟨gs, hgs, h⟩ := bind_eq_ok_iff.1 h
    cases h
    rw [eq_some_of_required hf] at ho
    rw [List.map_cons, hR.document ho, hR.branches hgs, Reading.readBranches]

end

end Reading.Follows

theorem ofDocument_eq_none_iff {j : Json} : ofDocument j = .ok none ↔ j = .null ∨ j = .object [] := by
  constructor
  · intro h
    cases j with
    | null => exact .inl rfl
    | object ms =>
      rw [ofDocument] at h
      obtain ⟨fs, hfs, h⟩ := bind_eq_ok_iff.1 h
      cases ms with
      | nil => exact .inr rfl
      | cons m ms =>
        obtain ⟨f, gs, -, -, rfl⟩ := member_of_ofMembers hfs
        cases Except.ok.inj h
    | bool | number | string | array => simp [ofDocument, invalid] at h
  · rintro (rfl | rfl) <;> rfl

/-- Only null and the empty document state no filter. A filter that a document states is as true as the
document, whatever the tests of fields mean, and it binds the operands of the document. -/
theorem ofDocument_means (j : Json) :
    (ofDocument j = .ok none ↔ j = .null ∨ j = .object []) ∧
      ∀ f, ofDocument j = .ok (some f) →
        (∀ value, f.truth value = (Reading.truth value).read j) ∧
          ∀ d, (Statement.ofFilter d f).values = Reading.operands.read j := by
  refine ⟨ofDocument_eq_none_iff, fun f hf => ⟨fun value => ?_, fun d => ?_⟩⟩
  · exact (truth_follows value).document hf
  · exact operands_follows.document hf

/-- Two branches, one with a list that holds null, beside a test for null and an object as plain value. -/
def nested : Json :=
  .object
    [("$or", .array
      [.object [("age", .object [("$gte", .ofNat 18), ("$in", .array [.null, .string "x"])])],
        .object [("$not", .object [("left", .null)])]]),
      ("name", .object [("$ne", .null)]),
      ("tags", .object [])]

theorem ofDocument_means_nested :
    ∃ f, ofDocument nested = .ok (some f) ∧
      (∀ value, f.truth value = Truth.all
        [Truth.any
          [Truth.all [Truth.all [value (.compare "age" .gte (.int 18)),
              value (.oneOf "age" [.null, .text "x"])]],
            Truth.all [Truth.not (Truth.all [value (.isNull "left")])]],
          Truth.all [value (.isNotNull "name")], value (.compare "tags" .eq (.text "\x7b\x7d"))]) ∧
      ∀ d, (Statement.ofFilter d f).values = [.int 18, .null, .text "x", .text "\x7b\x7d"] := by
  refine ⟨_, rfl, fun value => ?_, fun d => ?_⟩
  · exact (((ofDocument_means nested).2 _ rfl).1 value).trans rfl
  · exact (((ofDocument_means nested).2 _ rfl).2 d).trans rfl

end Filter

end SqlAdapter
