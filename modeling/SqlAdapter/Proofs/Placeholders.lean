import Mathlib.Data.List.Sort
import SqlAdapter.Proofs.Selection

/-!
# What values leave alone

The values of a statement stand beside its text, and the text does not tell them: it is the same for any
two filters that are alike in everything but their values, for any two records of the same fields, for any
two keys and for any two tables whose columns are listed. The length of a list is told by the number of
placeholders, so alike lists have the same length; an empty one is told by a constant.
-/

set_option autoImplicit false

namespace SqlAdapter

namespace Filter

/-- Atoms that are the same but for their values. -/
inductive Atom.Alike : Atom → Atom → Prop
  | compare (field : String) (op : Comparison) (v w : Value) :
    Alike (compare field op v) (compare field op w)
  | isNull (field : String) : Alike (isNull field) (isNull field)
  | isNotNull (field : String) : Alike (isNotNull field) (isNotNull field)
  | oneOf (field : String) {vs ws : List Value} (h : vs.length = ws.length) :
    Alike (oneOf field vs) (oneOf field ws)
  | noneOf (field : String) {vs ws : List Value} (h : vs.length = ws.length) :
    Alike (noneOf field vs) (noneOf field ws)
  | like (field pattern pattern' : String) : Alike (like field pattern) (like field pattern')
  | between (field : String) (low high low' high' : Value) :
    Alike (between field low high) (between field low' high')

/-- Filters that are the same but for the values of their atoms. -/
inductive Alike : Filter → Filter → Prop
  | atom {a b : Atom} (h : a.Alike b) : Alike (.atom a) (.atom b)
  | and {l r l' r' : Filter} (hl : Alike l l') (hr : Alike r r') : Alike (.and l r) (.and l' r')
  | or {l r l' r' : Filter} (hl : Alike l l') (hr : Alike r r') : Alike (.or l r) (.or l' r')
  | not {f g : Filter} (h : Alike f g) : Alike (.not f) (.not g)

theorem Atom.Alike.test_eq {a b : Atom} (h : a.Alike b) : a.test = b.test := by
  cases h with
  | compare | isNull | isNotNull | like | between => rfl
  | @oneOf field vs ws h =>
    match vs, ws, h with
    | [], [], _ => rfl
    | _ :: _, _ :: _, h => exact congrArg (Sql.Test.isIn field) h
  | @noneOf field vs ws h =>
    match vs, ws, h with
    | [], [], _ => rfl
    | _ :: _, _ :: _, h => exact congrArg (Sql.Test.notIn field) h

theorem Alike.condition_eq {f g : Filter} (h : f.Alike g) : condition f = condition g := by
  induction h with
  | atom h => exact congrArg Formula.atom h.test_eq
  | and _ _ hl hr => exact congrArg₂ Formula.and hl hr
  | or _ _ hl hr => exact congrArg₂ Formula.or hl hr
  | not _ h => exact congrArg Formula.not h

theorem map_condition_eq {o o' : Option Filter} (h : Option.Rel Alike o o') :
    o.map condition = o'.map condition := by
  cases h with
  | none => rfl
  | some h => exact congrArg some h.condition_eq

end Filter

namespace Criteria

/-- Criteria that are the same but for the values of their filters. -/
structure Alike (c c' : Criteria) : Prop where
  filter : Option.Rel Filter.Alike c.filter c'.filter
  sort : c.sort = c'.sort
  limit : c.limit = c'.limit
  skip : c.skip = c'.skip

/-- The atoms of the filter from left to right; none without a filter. -/
def leaves (c : Criteria) : List Filter.Atom := (c.filter.map Formula.atoms).getD []

theorem operands_eq (c : Criteria) :
    (c.filter.map Filter.operands).getD [] = c.leaves.flatMap Filter.Atom.operands := by
  unfold leaves
  cases c.filter <;> rfl

end Criteria

theorem Record.names_ascending (r : Record) : r.names.Pairwise (· < ·) := List.pairwise_map.2 r.ascending

theorem Record.names_eq_of_mem_iff {r r' : Record} (h : ∀ name, name ∈ r.names ↔ name ∈ r'.names) :
    r.names = r'.names :=
  r.names_ascending.eq_of_mem_iff r'.names_ascending h

namespace Statement

variable {d : Dialect} {c c' : Criteria} {r r' : Record}

theorem selectCommand_eq_of_alike (h : c.Alike c') (table : String) :
    selectCommand d table c = selectCommand d table c' := by
  have horder : c.order = c'.order := by
    unfold Criteria.order
    rw [h.sort]
  rw [selectCommand_eq, selectCommand_eq, horder, Filter.map_condition_eq h.filter, h.limit, h.skip]

/-- Alike criteria fail for the same sort, or select with one text. -/
theorem select_of_alike (h : c.Alike c') (table : String) :
    (∃ e, c.order = .error e ∧ select d table c = .error e ∧ select d table c' = .error e) ∨
      ∃ sql, select d table c = .ok ⟨sql, c.leaves.flatMap Filter.Atom.operands⟩ ∧
        select d table c' = .ok ⟨sql, c'.leaves.flatMap Filter.Atom.operands⟩ := by
  unfold select
  rw [c.operands_eq, c'.operands_eq, ← selectCommand_eq_of_alike h table, selectCommand_eq]
  cases c.order with
  | error e => exact .inl ⟨e, rfl, rfl, rfl⟩
  | ok order => exact .inr ⟨_, rfl, rfl⟩

theorem insert_of_names (h : ∀ name, name ∈ r.names ↔ name ∈ r'.names) (table : String) :
    (r.names = [] ∧ insert d table r = .error (.emptyRecord table) ∧
        insert d table r' = .error (.emptyRecord table)) ∨
      ∃ sql, insert d table r = .ok ⟨sql, r.values⟩ ∧ insert d table r' = .ok ⟨sql, r'.values⟩ := by
  have hnames : r.names = r'.names := Record.names_eq_of_mem_iff h
  have hempty : ∀ r : Record, r.isEmpty = r.names.isEmpty := fun r => List.isEmpty_map.symm
  unfold insert
  rw [hempty r, hempty r', ← hnames]
  split
  · case isTrue hnone => exact .inl ⟨List.isEmpty_iff.1 hnone, rfl, rfl⟩
  · exact .inr ⟨_, rfl, rfl⟩

/-- The text of a statement does not depend on its values: alike criteria select with one text, beside
which stand the values of their own leaves from left to right, or fail for the same sort; records of the
same fields are inserted with one text; and one text looks up every key or lists the columns of every
table. -/
theorem text_ignores_values (hc : c.Alike c') (hr : ∀ name, name ∈ r.names ↔ name ∈ r'.names)
    (table : String) :
    ((∃ e, c.order = .error e ∧ select d table c = .error e ∧ select d table c' = .error e) ∨
      ∃ sql, select d table c = .ok ⟨sql, c.leaves.flatMap Filter.Atom.operands⟩ ∧
        select d table c' = .ok ⟨sql, c'.leaves.flatMap Filter.Atom.operands⟩) ∧
    ((r.names = [] ∧ insert d table r = .error (.emptyRecord table) ∧
        insert d table r' = .error (.emptyRecord table)) ∨
      ∃ sql, insert d table r = .ok ⟨sql, r.values⟩ ∧ insert d table r' = .ok ⟨sql, r'.values⟩) ∧
    (∀ primaryKey, ∃ sql, ∀ key, lookup d table primaryKey key = ⟨sql, [key]⟩) ∧
    ∃ sql, ∀ table, listColumns d table = ⟨sql, [.text table]⟩ := by
  refine ⟨select_of_alike hc table, insert_of_names hr table, ?_, ?_⟩
  · intro primaryKey
    exact ⟨(lookup d table primaryKey .null).sql, fun key => rfl⟩
  · exact ⟨_, fun table => rfl⟩

/-- Harmless values and values that look like parts of a statement. -/
theorem text_ignores_values_hostile :
    let wanted (name : Value) (pattern : String) (ages : List Value) : Filter :=
      .or (.not (.atom (.compare "name" .ne name)))
        (.and (.atom (.like "nick\x60?" pattern)) (.atom (.noneOf "age" ages)))
    let criteria (f : Filter) : Criteria := { filter := some f, sort := some (.ordered [("age", -1)]) }
    let kind := criteria (wanted (.text "Ada") "A%" [.int 1, .int 2])
    let hostile := criteria (wanted .null "' OR 1 = 1; --" [.text "?) OR (1 = 1", .bool true])
    (∃ sql, select .mysql "people" kind =
        .ok ⟨sql, [.text "Ada", .text "A%", .int 1, .int 2]⟩ ∧
      select .mysql "people" hostile =
        .ok ⟨sql, [.null, .text "' OR 1 = 1; --", .text "?) OR (1 = 1", .bool true]⟩) ∧
    ∃ sql, insert .mysql "people" (.ofList [("b", .text "'"), ("a", .null)]) =
        .ok ⟨sql, [.null, .text "'"]⟩ ∧
      insert .mysql "people" (.ofList [("a", .int 1), ("b", .int 2)]) = .ok ⟨sql, [.int 1, .int 2]⟩ := by
  intro wanted criteria kind hostile
  have halike : kind.Alike hostile :=
    ⟨.some (.or (.not (.atom (.compare ..))) (.and (.atom (.like ..)) (.atom (.noneOf _ rfl)))),
      rfl, rfl, rfl⟩
  have hnames : ∀ name,
      name ∈ (Record.ofList [("b", .text "'"), ("a", .null)]).names ↔
        name ∈ (Record.ofList [("a", .int 1), ("b", .int 2)]).names := fun name => Iff.rfl
  obtain ⟨⟨e, he, -⟩ | hselect, ⟨hempty, -⟩ | hinsert, -⟩ :=
    text_ignores_values (d := .mysql) halike hnames "people"
  · cases he
  · cases he
  · cases hempty
  · exact ⟨hselect, hinsert⟩

end Statement

end SqlAdapter
