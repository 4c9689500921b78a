import SqlAdapter.Proofs.Filter.Lists

/-!
# Short and long forms of filter documents

Much of what a filter document can say has a long form as well. Its members can be written as branches
under `$and`, the operators on a field one by one, a plain value as a test for equality, and a test for
presence as one against null. A single branch can stand for itself.

Main statement: short and long forms are interchangeable. Wherever one of them stands, at the top or deep
inside a document, the other gives the same filter or the same error.
-/

set_option autoImplicit false

namespace SqlAdapter

namespace Filter

/-- The document with branches under `$and` or `$or`. -/
def joining (key : String) (items : List Json) : Json := .object [(key, .array items)]

/-- A place in a document where a document can stand: the whole, under `$not`, or among the branches under
`$and` or `$or`, in each case with other members around it. -/
inductive Context where
  | whole
  | negation (before after : List (String × Json)) (c : Context)
  | branch (before after : List (String × Json)) (key : String) (hkey : key = "$and" ∨ key = "$or")
    (left right : List Json) (c : Context)

/-- The document that has another one in a place. -/
def Context.fill : Context → Json → Json
  | whole, j => j
  | negation before after c, j => .object (before ++ ("$not", c.fill j) :: after)
  | branch before after key _ left right c, j =>
    .object (before ++ (key, .array (left ++ c.fill j :: right)) :: after)

/-- In every place the two documents lead to the same filter or to the same error. -/
def Interchangeable (j j' : Json) : Prop :=
  ∀ c : Context, ofDocument (c.fill j) = ofDocument (c.fill j')

variable {field key op empty : String} {j j' x : Json} {items : List Json} {ms : List (String × Json)}

/-! ## Places -/

/-- What a document states depends only on what is stated by a document in it. -/
theorem interchangeable_of_eq (h : ofDocument j = ofDocument j') : Interchangeable j j' := by
  intro c
  induction c with
  | whole => exact h
  | negation before after c ih =>
    have hmember : ofMember "$not" (c.fill j) = ofMember "$not" (c.fill j') := by
      show ofBranch "empty $not" (c.fill j) >>= _ = ofBranch "empty $not" (c.fill j') >>= _
      rw [ofBranch, ofBranch, ih]
    simp only [Context.fill, ofDocument, ofMembers_eq_mapM, List.mapM_append, List.mapM_cons, hmember]
  | branch before after key hkey left right c ih =>
    have hbranches : ofBranches key (left ++ c.fill j :: right) =
        ofBranches key (left ++ c.fill j' :: right) := by
      simp only [ofBranches_eq_mapM, List.mapM_append, List.mapM_cons, ofBranch, ih]
    have hmember : ofMember key (.array (left ++ c.fill j :: right)) =
        ofMember key (.array (left ++ c.fill j' :: right)) := by
      rw [ofMember_of_connective hkey, ofMember_of_connective hkey]
      cases left <;> simp only [List.nil_append, List.cons_append, ofConnective] at hbranches ⊢ <;>
        rw [hbranches]
    simp only [Context.fill, ofDocument, ofMembers_eq_mapM, List.mapM_append, List.mapM_cons, hmember]

/-! ## Members, branches and operators -/

theorem ofDocument_object : ofDocument (.object ms) = (ofMembers ms).map Formula.conjunction? := by
  rw [ofDocument]
  cases ofMembers ms <;> rfl

theorem ofDocument_single : ofDocument (.object [(key, x)]) = (ofMember key x).map some := by
  rw [ofDocument_object, ofMembers_cons]
  cases ofMember key x <;> rfl

theorem ofBranch_single : ofBranch empty (.object [(key, x)]) = ofMember key x := by
  rw [ofBranch, ofDocument_single]
  cases ofMember key x <;> rfl

/-- A document of branches states the branches, joined by its connective. -/
theorem ofDocument_joining (hkey : key = "$and" ∨ key = "$or") (hne : items ≠ []) :
    ofDocument (joining key items) = (ofBranches key items).map fun fs =>
      if key = "$and" then Formula.conjunction? fs else Formula.disjunction? fs := by
  obtain ⟨y, ys, rfl⟩ := List.exists_cons_of_ne_nil hne
  rw [joining, ofDocument_single, ofMember_of_connective hkey, ofConnective.eq_2 _ _ hne]
  cases hbranches : ofBranches key (y :: ys) with
  | error e => rfl
  | ok fs =>
    rw [ofBranches] at hbranches
    obtain ⟨o, -, hbranches⟩ := bind_eq_ok_iff.1 hbranches
    obtain ⟨f, -, hbranches⟩ := bind_eq_ok_iff.1 hbranches
    obtain ⟨gs, -, hbranches⟩ := bind_eq_ok_iff.1 hbranches
    cases hbranches
    -- branches that are there can be joined
    show (required _ (if key = "$and" then some _ else some _)).map some = .ok _
    split <;> rfl

theorem ofDocument_conjunction (hne : items ≠ []) :
    ofDocument (joining "$and" items) = (ofBranches "$and" items).map Formula.conjunction? :=
  ofDocument_joining (.inl rfl) hne

theorem ofDocument_operators (hfield : isOperator field = false) (hne : ms ≠ [])
    (hops : ∀ m ∈ ms, isOperator m.1 = true) :
    ofDocument (.object [(field, .object ms)]) = (ofOperators field ms).map Formula.conjunction? := by
  obtain ⟨m, rest, rfl⟩ := List.exists_cons_of_ne_nil hne
  have hfirst : isOperator m.1 = true := hops m List.mem_cons_self
  rw [ofDocument_single, ofMember_of_field hfield, ofField, if_neg (by simp [hfirst]),
    if_pos (List.all_eq_true.2 hops)]
  cases hfs : ofOperators field (m :: rest) with
  | error e => rfl
  | ok fs =>
    rw [ofOperators] at hfs
    obtain ⟨a, -, hfs⟩ := bind_eq_ok_iff.1 hfs
    obtain ⟨gs, -, hfs⟩ := bind_eq_ok_iff.1 hfs
    cases hfs
    rfl

theorem ofBranch_testing (hfield : isOperator field = false) (hop : isOperator op = true) :
    ofBranch empty (testing field op x) = ofOperator field op x >>= fun a => .ok (.atom a) := by
  rw [testing, ofBranch, ofDocument_operators hfield (List.cons_ne_nil _ _)
    (List.forall_mem_singleton.2 hop), ofOperators]
  cases ofOperator field op x <;> rfl

theorem ofBranches_members : ofBranches key (ms.map fun m => .object [m]) = ofMembers ms := by
  rw [ofBranches_eq_mapM, ofMembers_eq_mapM, List.mapM_map]
  congr 1
  funext m
  exact ofBranch_single

theorem ofBranches_tests (hfield : isOperator field = false) (hops : ∀ m ∈ ms, isOperator m.1 = true) :
    ofBranches key (ms.map fun m => testing field m.1 m.2) = ofOperators field ms := by
  rw [ofBranches_eq_mapM, ofOperators_eq_mapM]
  induction ms with
  | nil => rfl
  | cons m ms ih =>
    rw [List.forall_mem_cons] at hops
    rw [List.map_cons, List.mapM_cons, List.mapM_cons, ofBranch_testing hfield hops.1, ih hops.2]

/-! ## Short forms -/

theorem ofDocument_members (hne : ms ≠ []) :
    ofDocument (.object ms) = ofDocument (joining "$and" (ms.map fun m => .object [m])) := by
  have hitems : (ms.map fun m => Json.object [m]) ≠ [] := by simpa using hne
  rw [ofDocument_object, ofDocument_conjunction hitems, ofBranches_members]

theorem ofDocument_tests (hfield : isOperator field = false) (hne : ms ≠ [])
    (hops : ∀ m ∈ ms, isOperator m.1 = true) :
    ofDocument (.object [(field, .object ms)]) =
      ofDocument (joining "$and" (ms.map fun m => testing field m.1 m.2)) := by
  have hitems : (ms.map fun m => testing field m.1 m.2) ≠ [] := by simpa using hne
  rw [ofDocument_operators hfield hne hops, ofDocument_conjunction hitems, ofBranches_tests hfield hops]

theorem ofDocument_plain (hfield : isOperator field = false)
    (hx : ∀ ms, x = .object ms → ∀ m ∈ ms, isOperator m.1 = false) :
    ofDocument (.object [(field, x)]) = ofDocument (testing field "$eq" x) := by
  have hcontent : ofField field x = .ok (ofPlain field x) := by
    cases x with
    | object ms => exact if_pos (by simpa using hx ms rfl)
    | null | bool | number | string | array => rfl
  rw [ofDocument_single, ofMember_of_field hfield, hcontent, ofDocument_testing hfield rfl rfl]
  rfl

theorem ofDocument_branch (hkey : key = "$and" ∨ key = "$or") (hne : ms ≠ []) :
    ofDocument (joining key [.object ms]) = ofDocument (.object ms) := by
  rw [ofDocument_joining hkey (List.cons_ne_nil _ _), ofBranches]
  cases hdocument : ofDocument (.object ms) with
  | error e => rfl
  | ok o =>
    cases o with
    | none =>
      rcases ofDocument_eq_none_iff.1 hdocument with hnull | hempty
      · cases hnull
      · exact absurd (Json.object.inj hempty) hne
    | some f =>
      -- one branch is joined to nothing, by either connective
      show Except.ok (if key = "$and" then some f else some f) = _
      rw [ite_self]

/-- Members can be written as branches under `$and`, and so can the operators on a field; a plain value as
a test for equality, and a test for presence as one against null; and a single branch can stand for itself.
In every place of a document this leads to the same filter or to the same error. -/
theorem long_forms_interchangeable :
    (∀ ms : List (String × Json), ms ≠ [] →
      Interchangeable (.object ms) (joining "$and" (ms.map fun m => .object [m]))) ∧
    (∀ (field : String) (ms : List (String × Json)), isOperator field = false → ms ≠ [] →
      (∀ m ∈ ms, isOperator m.1 = true) →
        Interchangeable (.object [(field, .object ms)])
          (joining "$and" (ms.map fun m => .object [(field, .object [m])]))) ∧
    (∀ (field : String) (x : Json), isOperator field = false →
      (∀ ms, x = .object ms → ∀ m ∈ ms, isOperator m.1 = false) →
        Interchangeable (.object [(field, x)]) (testing field "$eq" x)) ∧
    (∀ field : String, isOperator field = false →
      Interchangeable (testing field "$exists" (.bool false)) (testing field "$eq" .null) ∧
        Interchangeable (testing field "$exists" (.bool true)) (testing field "$ne" .null)) ∧
    ∀ (key : String) (ms : List (String × Json)), key = "$and" ∨ key = "$or" → ms ≠ [] →
      Interchangeable (joining key [.object ms]) (.object ms) := by
  refine ⟨?members, ?operators, ?plain, ?presence, ?branch⟩
  case members =>
    intro ms hne
    exact interchangeable_of_eq (ofDocument_members hne)
  case operators =>
    intro field ms hfield hne hops
    exact interchangeable_of_eq (ofDocument_tests hfield hne hops)
  case plain =>
    intro field x hfield hx
    exact interchangeable_of_eq (ofDocument_plain hfield hx)
  case presence =>
    intro field hfield
    have test {op : String} {x : Json} {a : Atom} (hop : isOperator op = true)
        (ha : ofOperator field op x = .ok a) :
        ofDocument (testing field op x) = .ok (some (.atom a)) := ofDocument_testing hfield hop ha
    constructor
    · exact interchangeable_of_eq ((test rfl rfl).trans (test rfl rfl).symm)
    · exact interchangeable_of_eq ((test rfl rfl).trans (test rfl rfl).symm)
  case branch =>
    intro key ms hkey hne
    exact interchangeable_of_eq (ofDocument_branch hkey hne)

/-- Two operators on a field under `$not`, beside a member that fails: whether the operators are written
together or one by one, the document fails with the error of the other member, and without that member it
states the same filter. -/
theorem long_forms_interchangeable_negated :
    let age : List (String × Json) := [("$exists", .bool true), ("$gte", .ofNat 18)]
    let short : Json := .object [("age", .object age)]
    let long : Json := joining "$and" (age.map fun m => .object [("age", .object [m])])
    let bad : String × Json := ("name", .object [("$like", .null)])
    isOperator "age" = false ∧ age ≠ [] ∧ (∀ m ∈ age, isOperator m.1 = true) ∧
      ofDocument (.object [("$not", short), bad]) =
        .error (.invalidFilter "$like on 'name' expects a string") ∧
      ofDocument (.object [("$not", long), bad]) = ofDocument (.object [("$not", short), bad]) ∧
      ofDocument (.object [("$not", long)]) =
        .ok (some (.not (.and (.atom (.isNotNull "age")) (.atom (.compare "age" .gte (.int 18)))))) := by
  intro age short long bad
  have hops : ∀ m ∈ age, isOperator m.1 = true := by decide
  have hsame : Interchangeable short long :=
    long_forms_interchangeable.2.1 "age" age rfl (List.cons_ne_nil _ _) hops
  exact ⟨rfl, List.cons_ne_nil _ _, hops, rfl, (hsame (.negation [] [bad] .whole)).symm,
    (hsame (.negation [] [] .whole)).symm.trans rfl⟩

end Filter

end SqlAdapter
