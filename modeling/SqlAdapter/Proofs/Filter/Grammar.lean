import SqlAdapter.Proofs.Decision
import SqlAdapter.Proofs.Filter.Meaning
import SqlAdapter.Proofs.Json.Ordered

/-!
# Which filter documents are accepted

The grammar of filter documents and, for the documents that do not follow it, the error of the first
offence. Documents are looked through depth first, the members of an object in the order of their keys.
Where an object under a field mixes operators with other keys, this comes before anything that is wrong
with an operator.

Main statement: a document in key order states a filter, or states that there is none, exactly if it
follows the grammar, and otherwise fails with the error of its first offence.
-/

set_option autoImplicit false

namespace SqlAdapter

namespace Filter

/-! ## The grammar -/

/-- The operators that compare with any value. -/
def comparisons : List String := ["$eq", "$ne", "$gt", "$gte", "$lt", "$lte"]

/-- All operators that a field can be tested by. -/
def operators : List String := comparisons ++ ["$in", "$nin", "$like", "$exists"]

/-- What can stand under an operator. -/
inductive IsOperand : String → Json → Prop
  | compared {op : String} {x : Json} (hop : op ∈ comparisons) : IsOperand op x
  | list {op : String} {items : List Json} (hop : op = "$in" ∨ op = "$nin") : IsOperand op (.array items)
  | pattern {op s : String} (hop : op = "$like") : IsOperand op (.string s)
  | presence {op : String} {b : Bool} (hop : op = "$exists") : IsOperand op (.bool b)

/-- What can stand under a field: a plain value or operators. -/
inductive IsContent : Json → Prop
  | plain {x : Json} (hx : ∀ ms, x ≠ .object ms) : IsContent x
  | plainObject {ms : List (String × Json)} (h : ∀ m ∈ ms, isOperator m.1 = false) :
    IsContent (.object ms)
  | operators {ms : List (String × Json)} (hne : ms ≠ []) (h : ∀ m ∈ ms, IsOperand m.1 m.2) :
    IsContent (.object ms)

mutual

/-- The documents of the grammar. -/
inductive IsDocument : Json → Prop
  | null : IsDocument .null
  | object {ms : List (String × Json)} (h : ∀ m ∈ ms, IsMember m.1 m.2) : IsDocument (.object ms)

/-- The members of a document. -/
inductive IsMember : String → Json → Prop
  | branches {key : String} {items : List Json} (hkey : key = "$and" ∨ key = "$or") (hne : items ≠ [])
    (h : ∀ x ∈ items, IsBranch x) : IsMember key (.array items)
  | negation {key : String} {x : Json} (hkey : key = "$not") (h : IsBranch x) : IsMember key x
  | field {key : String} {x : Json} (hkey : isOperator key = false) (h : IsContent x) : IsMember key x

/-- The documents that stand inside a document. -/
inductive IsBranch : Json → Prop
  | object {ms : List (String × Json)} (hne : ms ≠ []) (h : ∀ m ∈ ms, IsMember m.1 m.2) :
    IsBranch (.object ms)

end

/-! ## The first offence -/

/-- What is wrong with an operator on a field. -/
inductive OperandOffence (field : String) : String → Json → CompileError → Prop
  | unknown {op : String} {x : Json} (hop : op ∉ operators) :
    OperandOffence field op x (.unsupportedOperator op)
  | list {op : String} {x : Json} (hop : op = "$in" ∨ op = "$nin") (hx : ∀ items, x ≠ .array items) :
    OperandOffence field op x (.invalidFilter (op ++ " on '" ++ field ++ "' expects an array"))
  | pattern {op : String} {x : Json} (hop : op = "$like") (hx : ∀ s, x ≠ .string s) :
    OperandOffence field op x (.invalidFilter ("$like on '" ++ field ++ "' expects a string"))
  | presence {op : String} {x : Json} (hop : op = "$exists") (hx : ∀ b, x ≠ .bool b) :
    OperandOffence field op x (.invalidFilter ("$exists on '" ++ field ++ "' expects a boolean"))

/-- What is wrong first under a field. -/
inductive ContentOffence (field : String) : Json → CompileError → Prop
  | mixed {ms : List (String × Json)} (hop : ∃ m ∈ ms, isOperator m.1 = true)
    (hplain : ∃ m ∈ ms, isOperator m.1 = false) :
    ContentOffence field (.object ms) (.invalidFilter ("'" ++ field ++ "' mixes operators and plain keys"))
  | operand {ms : List (String × Json)} {m : String × Json} {e : CompileError}
    (hall : ∀ m ∈ ms, isOperator m.1 = true) (hm : m ∈ ms)
    (hbefore : ∀ y ∈ ms, y.1 < m.1 → IsOperand y.1 y.2) (h : OperandOffence field m.1 m.2 e) :
    ContentOffence field (.object ms) e

mutual

/-- What is wrong first with a document. -/
inductive DocumentOffence : Json → CompileError → Prop
  | kind {x : Json} (hnull : x ≠ .null) (hobject : ∀ ms, x ≠ .object ms) :
    DocumentOffence x (.invalidFilter ("expected an object, got " ++ x.compact))
  | member {ms : List (String × Json)} {m : String × Json} {e : CompileError} (hm : m ∈ ms)
    (hbefore : ∀ y ∈ ms, y.1 < m.1 → IsMember y.1 y.2) (h : MemberOffence m.1 m.2 e) :
    DocumentOffence (.object ms) e

/-- What is wrong first with a member of a document. -/
inductive MemberOffence : String → Json → CompileError → Prop
  | kind {key : String} {x : Json} (hkey : key = "$and" ∨ key = "$or")
    (hx : ∀ items, x ≠ .array items) :
    MemberOffence key x (.invalidFilter (key ++ " expects an array"))
  | empty {key : String} (hkey : key = "$and" ∨ key = "$or") :
    MemberOffence key (.array []) (.invalidFilter (key ++ " expects at least one branch"))
  | branch {key : String} {before after : List Json} {x : Json} {e : CompileError}
    (hkey : key = "$and" ∨ key = "$or") (hbefore : ∀ y ∈ before, IsBranch y)
    (h : BranchOffence ("empty branch in " ++ key) x e) :
    MemberOffence key (.array (before ++ x :: after)) e
  | negation {key : String} {x : Json} {e : CompileError} (hkey : key = "$not")
    (h : BranchOffence "empty $not" x e) : MemberOffence key x e
  | unknown {key : String} {x : Json} (hop : isOperator key = true)
    (hkey : key ∉ ["$and", "$or", "$not"]) : MemberOffence key x (.unsupportedOperator key)
  | field {key : String} {x : Json} {e : CompileError} (hkey : isOperator key = false)
    (h : ContentOffence key x e) : MemberOffence key x e

/-- What is wrong first with a document inside a document, where `empty` is said of one without members. -/
inductive BranchOffence : String → Json → CompileError → Prop
  | blank {empty : String} {x : Json} (hx : x = .null ∨ x = .object []) :
    BranchOffence empty x (.invalidFilter empty)
  | inside {empty : String} {x : Json} {e : CompileError} (h : DocumentOffence x e) :
    BranchOffence empty x e

end

/-! ## Every document is decided -/

section Decided

variable {field op key empty : String} {x : Json} {e : CompileError} {ms : List (String × Json)}
  {items : List Json}

theorem isSome_comparison?_iff : (comparison? op).isSome ↔ op ∈ comparisons := by
  unfold comparison?
  split <;> simp_all [comparisons]

theorem ofOperator_of_compared (h : op ∈ comparisons) : ∃ a, ofOperator field op x = .ok a := by
  obtain ⟨c, hc⟩ := Option.isSome_iff_exists.1 (isSome_comparison?_iff.2 h)
  unfold ofOperator
  rw [hc]
  exact ⟨_, rfl⟩

theorem ofOperator_of_unknown (h : op ∉ operators) :
    ofOperator field op x = .error (.unsupportedOperator op) := by
  have hc : comparison? op = none := by
    rw [← Option.not_isSome_iff_eq_none, isSome_comparison?_iff]
    exact fun hop => h (List.mem_append_left _ hop)
  unfold ofOperator
  rw [hc]
  dsimp only
  split <;> first | rfl | exact absurd (by decide) h

theorem isOperator_of_isOperand (h : IsOperand op x) : isOperator op = true := by
  have hall : ∀ op ∈ operators, isOperator op = true := by decide
  apply hall
  cases h with
  | compared hop => exact List.mem_append_left _ hop
  | list hop => rcases hop with rfl | rfl <;> decide
  | pattern hop | presence hop =>
    subst hop
    decide

theorem decides_operand (field op : String) (x : Json) :
    Decides (ofOperator field op x) (IsOperand op x) (OperandOffence field op x) := by
  apply Decides.of_total
  · intro h
    cases h with
    | compared hop => exact ofOperator_of_compared hop
    | list hop => rcases hop with rfl | rfl <;> exact ⟨_, rfl⟩
    | pattern hop =>
      subst hop
      exact ⟨_, rfl⟩
    | @presence b hop =>
      subst hop
      cases b <;> exact ⟨_, rfl⟩
  · intro e h
    cases h with
    | unknown hop => exact ofOperator_of_unknown hop
    | list hop hx =>
      rcases hop with rfl | rfl <;> cases x <;> first | rfl | exact absurd rfl (hx _)
    | pattern hop hx | presence hop hx =>
      subst hop
      cases x <;> first | rfl | exact absurd rfl (hx _)
  · by_cases hop : op ∈ operators
    · rcases List.mem_append.1 hop with hop | hop
      · exact .inl (.compared hop)
      · simp only [List.mem_cons, List.not_mem_nil, or_false, ← or_assoc] at hop
        rcases hop with (hop | hop) | hop
        · by_cases hx : ∃ items, x = .array items
          · obtain ⟨items, rfl⟩ := hx
            exact .inl (.list hop)
          · exact .inr ⟨_, .list hop (not_exists.1 hx)⟩
        · by_cases hx : ∃ s, x = .string s
          · obtain ⟨s, rfl⟩ := hx
            exact .inl (.pattern hop)
          · exact .inr ⟨_, .pattern hop (not_exists.1 hx)⟩
        · by_cases hx : ∃ b, x = .bool b
          · obtain ⟨b, rfl⟩ := hx
            exact .inl (.presence hop)
          · exact .inr ⟨_, .presence hop (not_exists.1 hx)⟩
    · exact .inr ⟨_, .unknown hop⟩

theorem ofOperators_eq_mapM : ofOperators field ms =
    ms.mapM fun m => ofOperator field m.1 m.2 >>= fun a => .ok (.atom a) := by
  induction ms with
  | nil => rfl
  | cons m ms ih =>
    rw [ofOperators, List.mapM_cons, ih]
    cases ofOperator field m.1 m.2 <;> rfl

theorem decides_operators (field : String) (h : Keyed.Ascending ms) :
    Decides (ofOperators field ms) (∀ m ∈ ms, IsOperand m.1 m.2) fun e =>
      ∃ m ∈ ms, (∀ y ∈ ms, y.1 < m.1 → IsOperand y.1 y.2) ∧ OperandOffence field m.1 m.2 e := by
  rw [ofOperators_eq_mapM]
  exact .mapM_ascending h fun m _ => (decides_operand field m.1 m.2).map _

/-- An object whose members are operators alone is judged by them. -/
theorem decides_operatorObject (field : String) (hkeys : Keyed.Ascending ms) (hne : ms ≠ [])
    (hall : ∀ m ∈ ms, isOperator m.1 = true) :
    Decides (ofField field (.object ms)) (∀ m ∈ ms, IsOperand m.1 m.2) fun e =>
      ∃ m ∈ ms, (∀ y ∈ ms, y.1 < m.1 → IsOperand y.1 y.2) ∧ OperandOffence field m.1 m.2 e := by
  obtain ⟨m, hm⟩ := List.exists_mem_of_ne_nil ms hne
  have hsome : ∃ m ∈ ms, isOperator m.1 = true := ⟨m, hm, hall m hm⟩
  rw [ofField, if_neg (by simpa using hsome), if_pos (by simpa using hall)]
  exact (decides_operators field hkeys).map _

theorem decides_content (field : String) (hx : x.Ordered) :
    Decides (ofField field x) (IsContent x) (ContentOffence field x) := by
  apply Decides.of_total
  · intro h
    cases h with
    | plain hplain =>
      cases x with
      | object ms => exact absurd rfl (hplain ms)
      | null | bool | number | string | array => exact ⟨_, rfl⟩
    | plainObject h =>
      rw [ofField, if_pos (by simpa using h)]
      exact ⟨_, rfl⟩
    | operators hne h =>
      -- what the grammar allows under operators has operators for keys
      cases hx with
      | object hkeys _ =>
        have hall m hm := isOperator_of_isOperand (h m hm)
        exact (decides_operatorObject field hkeys hne hall).ok_iff.2 h
  · intro e h
    cases h with
    | mixed hop hplain =>
      rw [ofField, if_neg (by simpa using hop), if_neg (by simpa using hplain)]
      rfl
    | operand hall hm hbefore h =>
      cases hx with
      | object hkeys _ =>
        have hdecides := decides_operatorObject field hkeys (List.ne_nil_of_mem hm) hall
        exact (hdecides.error_iff e).2 ⟨_, hm, hbefore, h⟩
  · cases hx with
    | null | bool | number | string | array => exact .inl (.plain (by simp))
    | @object ms hkeys _ =>
      by_cases hplain : ∀ m ∈ ms, isOperator m.1 = false
      · exact .inl (.plainObject hplain)
      have hop : ∃ m ∈ ms, isOperator m.1 = true := by simpa using hplain
      by_cases hall : ∀ m ∈ ms, isOperator m.1 = true
      · obtain ⟨_, hm, -⟩ := hop
        have hne := List.ne_nil_of_mem hm
        rcases (decides_operatorObject field hkeys hne hall).total with h | ⟨e, m, hm, hbefore, h⟩
        · exact .inl (.operators hne h)
        · exact .inr ⟨e, .operand hall hm hbefore h⟩
      · exact .inr ⟨_, .mixed hop (by simpa using hall)⟩

/-- The filter of a document inside a document, which must state one. -/
def ofBranch (empty : String) (x : Json) : Except CompileError Filter := ofDocument x >>= required empty

theorem ofBranches_eq_mapM :
    ofBranches key items = items.mapM (ofBranch ("empty branch in " ++ key)) := by
  induction items with
  | nil => rfl
  | cons x items ih =>
    rw [ofBranches, List.mapM_cons, ← ih, ofBranch]
    cases ofDocument x with
    | error e => rfl
    | ok o => cases o <;> rfl

theorem isBranch_iff : IsBranch x ↔ IsDocument x ∧ ¬(x = .null ∨ x = .object []) := by
  constructor
  · rintro ⟨hne, h⟩
    exact ⟨.object h, by simpa using hne⟩
  · rintro ⟨h, hblank⟩
    cases h with
    | null => exact absurd (.inl rfl) hblank
    | object h => exact .object (by simpa using hblank) h

theorem decides_branch (h : Decides (ofDocument x) (IsDocument x) (DocumentOffence x)) (empty : String) :
    Decides (ofBranch empty x) (IsBranch x) (BranchOffence empty x) := by
  rw [isBranch_iff]
  -- the blank documents are accepted on their own and state no filter
  by_cases hblank : x = .null ∨ x = .object []
  · have hnone : ofDocument x = .ok none := ofDocument_eq_none_iff.2 hblank
    rw [ofBranch, hnone]
    apply Decides.error
    · exact fun hbranch => hbranch.2 hblank
    · exact .blank hblank
    · rintro e (_ | he)
      · rfl
      · cases hnone.symm.trans ((h.error_iff e).2 he)
  · have hsome : ∀ o, ofDocument x = .ok o → Decides (required empty o) True fun _ => False := by
      intro o ho
      cases o with
      | none => exact absurd (ofDocument_eq_none_iff.1 ho) hblank
      | some f => exact .ok trivial fun _ => id
    apply (h.bind hsome).congr
    · exact and_congr_right fun _ => iff_of_true trivial hblank
    · intro e
      constructor
      · rintro (he | ⟨-, ⟨⟩⟩)
        exact .inside he
      · rintro (hx | he)
        · exact absurd hx hblank
        · exact .inl he

/-- What branches joined by AND or OR state. -/
def ofConnective (key : String) : Json → Except CompileError Filter
  | .array [] => invalid (key ++ " expects at least one branch")
  | .array items => do
    let fs ← ofBranches key items
    required ("empty branch in " ++ key)
      (if key = "$and" then Formula.conjunction? fs else Formula.disjunction? fs)
  | _ => invalid (key ++ " expects an array")

/-- What a member of a document states. -/
def ofMember (key : String) (x : Json) : Except CompileError Filter :=
  if key = "$and" ∨ key = "$or" then ofConnective key x
  else if key = "$not" then ofBranch "empty $not" x >>= fun f => .ok (.not f)
  else if isOperator key then .error (.unsupportedOperator key)
  else ofField key x

theorem ofMember_of_connective (hkey : key = "$and" ∨ key = "$or") :
    ofMember key x = ofConnective key x := if_pos hkey

theorem ofMember_of_field (hkey : isOperator key = false) : ofMember key x = ofField key x := by
  have hne : ∀ op, isOperator op = true → key ≠ op := by
    rintro op hop rfl
    cases hkey.symm.trans hop
  rw [ofMember, if_neg (not_or.2 ⟨hne _ rfl, hne _ rfl⟩), if_neg (hne _ rfl), hkey]
  rfl

theorem ofMembers_cons (key : String) (x : Json) (ms : List (String × Json)) :
    ofMembers ((key, x) :: ms) =
      ofMember key x >>= fun f => ofMembers ms >>= fun fs => .ok (f :: fs) := by
  conv => lhs; unfold ofMembers
  unfold ofMember
  split
  · cases x with
    | array items =>
      cases items with
      | nil => rfl
      | cons y ys =>
        dsimp only [ofConnective]
        cases ofBranches key (y :: ys) <;> rfl
    | null | bool | number | string | object => rfl
  · split
    · rw [ofBranch]
      cases ofDocument x with
      | error e => rfl
      | ok o => cases o <;> rfl
    · split <;> rfl

theorem ofMembers_eq_mapM : ofMembers ms = ms.mapM fun m => ofMember m.1 m.2 := by
  induction ms with
  | nil => rfl
  | cons m ms ih =>
    rw [ofMembers_cons, List.mapM_cons, ← ih]
    rfl

theorem decides_branches (key : String) (hne : items ≠ [])
    (h : ∀ y ∈ items, Decides (ofDocument y) (IsDocument y) (DocumentOffence y)) :
    Decides (ofConnective key (.array items)) (∀ y ∈ items, IsBranch y) fun e =>
      ∃ before y after, items = before ++ y :: after ∧ (∀ y ∈ before, IsBranch y) ∧
        BranchOffence ("empty branch in " ++ key) y e := by
  have hbranches : Decides (items.mapM (ofBranch ("empty branch in " ++ key))) _ _ :=
    .mapM fun y hy => decides_branch (h y hy) _
  obtain ⟨y, ys, rfl⟩ := List.exists_cons_of_ne_nil hne
  rw [← ofBranches_eq_mapM] at hbranches
  have hjoined : ∀ fs, ofBranches key (y :: ys) = .ok fs →
      Decides (required ("empty branch in " ++ key)
        (if key = "$and" then Formula.conjunction? fs else Formula.disjunction? fs)) True
        fun _ => False := by
    intro fs hfs
    rw [ofBranches] at hfs
    obtain ⟨o, -, hfs⟩ := bind_eq_ok_iff.1 hfs
    obtain ⟨f, -, hfs⟩ := bind_eq_ok_iff.1 hfs
    obtain ⟨gs, -, hfs⟩ := bind_eq_ok_iff.1 hfs
    cases hfs
    split <;> exact .ok trivial fun _ => id
  apply (hbranches.bind hjoined).congr
  · exact and_iff_left trivial
  · intro e
    simp

theorem decides_member (key : String) (hx : x.Ordered)
    (hdocument : Decides (ofDocument x) (IsDocument x) (DocumentOffence x))
    (hitems : ∀ items, x = .array items →
      ∀ y ∈ items, Decides (ofDocument y) (IsDocument y) (DocumentOffence y)) :
    Decides (ofMember key x) (IsMember key x) (MemberOffence key x) := by
  have hnegation : Decides (ofMember "$not" x) (IsBranch x) (BranchOffence "empty $not" x) :=
    (decides_branch hdocument _).map _
  have hfield (hkey : isOperator key = false) :
      Decides (ofMember key x) (IsContent x) (ContentOffence key x) := by
    rw [ofMember_of_field hkey]
    exact decides_content key hx
  apply Decides.of_total
  · intro h
    cases h with
    | branches hkey hne h =>
      rw [ofMember_of_connective hkey]
      exact (decides_branches key hne (hitems _ rfl)).ok_iff.2 h
    | negation hkey h =>
      subst hkey
      exact hnegation.ok_iff.2 h
    | field hkey h => exact (hfield hkey).ok_iff.2 h
  · intro e h
    cases h with
    | kind hkey hx =>
      rw [ofMember_of_connective hkey]
      cases x with
      | array items => exact absurd rfl (hx items)
      | null | bool | number | string | object => rfl
    | empty hkey =>
      rw [ofMember_of_connective hkey]
      rfl
    | @branch _ before after y _ hkey hbefore h =>
      have hdecides := decides_branches key (by simp) (hitems _ rfl)
      rw [ofMember_of_connective hkey]
      exact (hdecides.error_iff e).2 ⟨before, y, after, rfl, hbefore, h⟩
    | negation hkey h =>
      subst hkey
      exact (hnegation.error_iff e).2 h
    | unknown hop hkey =>
      simp only [List.mem_cons, List.not_mem_nil, or_false, not_or] at hkey
      rw [ofMember, if_neg (not_or.2 ⟨hkey.1, hkey.2.1⟩), if_neg hkey.2.2, if_pos hop]
    | field hkey h => exact ((hfield hkey).error_iff e).2 h
  · by_cases hkey : key = "$and" ∨ key = "$or"
    · by_cases harray : ∃ items, x = .array items
      · obtain ⟨items, rfl⟩ := harray
        by_cases hne : items = []
        · subst hne
          exact .inr ⟨_, .empty hkey⟩
        · rcases (decides_branches key hne (hitems _ rfl)).total with
            h | ⟨e, before, y, after, rfl, hbefore, h⟩
          · exact .inl (.branches hkey hne h)
          · exact .inr ⟨e, .branch hkey hbefore h⟩
      · exact .inr ⟨_, .kind hkey (not_exists.1 harray)⟩
    by_cases hnot : key = "$not"
    · rcases hnegation.total with h | ⟨e, h⟩
      · exact .inl (.negation hnot h)
      · exact .inr ⟨e, .negation hnot h⟩
    cases hop : isOperator key with
    | true => exact .inr ⟨_, .unknown hop (by simp_all)⟩
    | false =>
      rcases (hfield hop).total with h | ⟨e, h⟩
      · exact .inl (.field hop h)
      · exact .inr ⟨e, .field hop h⟩

theorem decides_otherKind (hnull : x ≠ .null) (hobject : ∀ ms, x ≠ .object ms) :
    Decides (ofDocument x) (IsDocument x) (DocumentOffence x) := by
  have hkind : ofDocument x = .error (.invalidFilter ("expected an object, got " ++ x.compact)) := by
    cases x with
    | null => exact absurd rfl hnull
    | object ms => exact absurd rfl (hobject ms)
    | bool | number | string | array => rfl
  rw [hkind]
  apply Decides.error
  · rintro (_ | _)
    · exact hnull rfl
    · exact hobject _ rfl
  · exact .kind hnull hobject
  · rintro e (_ | _)
    · rfl
    · exact absurd rfl (hobject _)

theorem decides_members (hkeys : Keyed.Ascending ms)
    (h : ∀ m ∈ ms, Decides (ofMember m.1 m.2) (IsMember m.1 m.2) (MemberOffence m.1 m.2)) :
    Decides (ofDocument (.object ms)) (IsDocument (.object ms)) (DocumentOffence (.object ms)) := by
  have hmembers := Decides.mapM_ascending hkeys h
  rw [← ofMembers_eq_mapM] at hmembers
  rw [ofDocument]
  apply (hmembers.map _).congr
  · constructor
    · exact .object
    · rintro ⟨⟩
      assumption
  · intro e
    constructor
    · rintro ⟨m, hm, hbefore, h⟩
      exact .member hm hbefore h
    · intro h
      cases h with
      | kind _ hobject => exact absurd rfl (hobject ms)
      | member hm hbefore h => exact ⟨_, hm, hbefore, h⟩

/-- A document in key order is accepted exactly if it follows the grammar, and fails with the error of its
first offence otherwise. -/
theorem ofDocument_decides {j : Json} (hj : j.Ordered) :
    ((∃ o, ofDocument j = .ok o) ↔ IsDocument j) ∧ ∀ e, ofDocument j = .error e ↔ DocumentOffence j e := by
  -- what an array lists can be branches, so the induction carries the documents of an array along
  suffices h : Decides (ofDocument j) (IsDocument j) (DocumentOffence j) ∧
      ∀ items, j = .array items →
        ∀ y ∈ items, Decides (ofDocument y) (IsDocument y) (DocumentOffence y) from
    ⟨h.1.ok_iff, h.1.error_iff⟩
  induction hj with
  | null =>
    refine ⟨.ok .null ?_, nofun⟩
    rintro e ⟨⟩
    contradiction
  | bool | number | string => exact ⟨decides_otherKind nofun nofun, nofun⟩
  | array h ih =>
    refine ⟨decides_otherKind nofun nofun, ?_⟩
    rintro items ⟨⟩ y hy
    exact (ih y hy).1
  | object hkeys h ih =>
    refine ⟨decides_members hkeys ?_, nofun⟩
    intro m hm
    exact decides_member m.1 (h m hm) (ih m hm).1 (ih m hm).2

end Decided

theorem DocumentOffence.head {m : String × Json} {ms : List (String × Json)} {e : CompileError}
    (hkeys : Keyed.Ascending (m :: ms)) (h : MemberOffence m.1 m.2 e) :
    DocumentOffence (.object (m :: ms)) e := by
  apply DocumentOffence.member List.mem_cons_self _ h
  intro y hy hlt
  exact absurd hlt (hkeys.not_lt_head hy)

/-- The object under `age` mixes its keys, which comes before its operator. Another branch and two members
with greater keys are not accepted either. -/
theorem ofDocument_decides_mixed :
    let accepted : Json := .object
      [("$not", .object [("age", .object [("$in", .array []), ("$ne", .null)])]), ("tags", .object [])]
    let refused : Json := .object
      [("$or", .array [.object [("age", .object [("$in", .null), ("least", .ofNat 18)])], .null]),
        ("$where", .string "1"), ("name", .object [("$regex", .string "x")])]
    (∃ o, ofDocument accepted = .ok o) ∧
      ofDocument refused = .error (.invalidFilter "'age' mixes operators and plain keys") := by
  intro accepted refused
  constructor
  · have hordered : accepted.Ordered := Json.Written.ordered_of_denotes?
      (show Json.Written.denotes? 4 accepted.written = some accepted from rfl)
    have hage : IsContent (.object [("$in", .array []), ("$ne", .null)]) :=
      .operators nofun (List.forall_mem_cons.2
        ⟨.list (.inl rfl), List.forall_mem_singleton.2 (.compared (by decide))⟩)
    have hbranch : IsBranch (.object [("age", .object [("$in", .array []), ("$ne", .null)])]) :=
      .object nofun (List.forall_mem_singleton.2 (.field rfl hage))
    have htags : IsMember "tags" (.object []) := .field rfl (.plainObject (List.forall_mem_nil _))
    exact (ofDocument_decides hordered).1.2
      (.object (List.forall_mem_cons.2 ⟨.negation rfl hbranch, List.forall_mem_singleton.2 htags⟩))
  · have hordered : refused.Ordered := Json.Written.ordered_of_denotes?
      (show Json.Written.denotes? 4 refused.written = some refused from rfl)
    have hage : MemberOffence "age" (.object [("$in", .null), ("least", .ofNat 18)])
        (.invalidFilter "'age' mixes operators and plain keys") :=
      .field rfl (.mixed ⟨_, List.mem_cons_self, rfl⟩ ⟨_, List.mem_cons_of_mem _ List.mem_cons_self, rfl⟩)
    have hbranch : BranchOffence "empty branch in $or"
        (.object [("age", .object [("$in", .null), ("least", .ofNat 18)])])
        (.invalidFilter "'age' mixes operators and plain keys") :=
      .inside (.head (by decide) hage)
    have hor := @MemberOffence.branch "$or" [] [.null] _ _ (.inr rfl) (List.forall_mem_nil _) hbranch
    exact ((ofDocument_decides hordered).2 _).2 (.head (by decide) hor)

end Filter

end SqlAdapter
