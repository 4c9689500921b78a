import SqlAdapter.Datasource.Rows
import SqlAdapter.Proofs.Binary64.PowersOfTwo
import SqlAdapter.Proofs.Decision
import SqlAdapter.Proofs.Selection
import SqlAdapter.Proofs.Sql.Rows
import SqlAdapter.Proofs.Text.Bytes
import SqlAdapter.Proofs.Text.Trimmed
import SqlAdapter.Proofs.Transcript
import SqlAdapter.Script

/-!
# Sorting

What a sort says and what becomes of it. Every entry of a sequence must be a pair of a field and a
direction, and anything will do for a direction; the members of an object always will. Main statement: a
sort is put in order without loss and becomes a clause of its selection, or else nothing is sent.
-/

set_option autoImplicit false

namespace SqlAdapter

/-! ## Directions -/

/-- The documents that state an ascending direction: the number one, true, and three words in any case. -/
inductive Json.StatesAscending : Json → Prop
  | integer {n : Integer} (h : n.val = 1) : StatesAscending (.number (.integer n))
  | float {x : Binary64} (h : x.sameNumber .one = true) : StatesAscending (.number (.float x))
  | true : StatesAscending (.bool true)
  | word {s : String} {core : List Char} (hcore : Text.Padded core s.toList)
      (hword : core.map Char.toLower ∈ ["1".toList, "asc".toList, "ascending".toList]) :
    StatesAscending (.string s)

namespace Direction

variable {s : String} {j : Json} {d : Direction}

theorem isAscendingWord_iff : isAscendingWord s = true ↔ ∃ core, Text.Padded core s.toList ∧
    core.map Char.toLower ∈ ["1".toList, "asc".toList, "ascending".toList] := by
  have hsolid : ∀ word ∈ ["1".toList, "asc".toList, "ascending".toList], Text.Solid word := by decide
  have hword : isAscendingWord s = true ↔ (Text.trim s.toList).map Char.toLower ∈
      ["1".toList, "asc".toList, "ascending".toList] := by
    simp only [isAscendingWord, Bool.or_eq_true, decide_eq_true_eq, List.mem_cons, List.not_mem_nil,
      or_false, or_assoc]
    rfl
  rw [hword]
  constructor
  · intro h
    exact ⟨_, Text.padded_trim _, h⟩
  · rintro ⟨core, hcore, h⟩
    rw [(Text.map_toLower_trim_eq_iff (hsolid _ h)).2 ⟨core, hcore, rfl⟩]
    exact h

theorem ofDocument_eq_ascending_iff : ofDocument j = .ascending ↔ j.StatesAscending := by
  have hif : ∀ up : Bool, (if up then ascending else descending) = ascending ↔ up = true := by decide
  have hdescending : descending ≠ ascending := by decide
  cases j with
  | null => exact iff_of_false hdescending (by rintro ⟨⟩)
  | bool b =>
    rw [ofDocument, hif]
    constructor
    · rintro rfl
      exact .true
    · rintro ⟨⟩
      rfl
  | number n =>
    rw [ofDocument, hif]
    cases n with
    | integer n =>
      rw [Json.Number.isOne, decide_eq_true_iff]
      constructor
      · exact .integer
      · intro h
        cases h with
        | integer h => exact h
    | float x =>
      rw [Json.Number.isOne, decide_eq_true_iff, ← Binary64.sameNumber_one_iff]
      constructor
      · exact .float
      · intro h
        cases h with
        | float h => exact h
  | string s =>
    rw [ofDocument, hif, isAscendingWord_iff]
    constructor
    · rintro ⟨core, hcore, hword⟩
      exact .word hcore hword
    · intro h
      cases h with
      | word hcore hword => exact ⟨_, hcore, hword⟩
  | array items => exact iff_of_false hdescending (by rintro ⟨⟩)
  | object members => exact iff_of_false hdescending (by rintro ⟨⟩)

theorem ofDocument_eq_iff : ofDocument j = d ↔ (d = .ascending ↔ j.StatesAscending) := by
  rw [← ofDocument_eq_ascending_iff]
  cases d <;> cases ofDocument j <;> simp

end Direction

/-! ## Putting a sort in order -/

namespace SortSpec

variable {x : Json} {entries : List Json} {members : List (String × Json)}

/-- A pair of a field and whatever stands for its direction. -/
def IsEntry (x : Json) : Prop := ∃ field direction, x = .array [.string field, direction]

/-- An entry states a field and a direction. -/
inductive StatesEntry : Json → String × Direction → Prop
  | pair {field : String} {j : Json} {d : Direction} (h : d = .ascending ↔ j.StatesAscending) :
    StatesEntry (.array [.string field, j]) (field, d)

/-- The error names the first of the entries that is none. -/
def Malformed (entries : List Json) (e : CompileError) : Prop :=
  ∃ before x after, entries = before ++ x :: after ∧ (∀ y ∈ before, IsEntry y) ∧ ¬IsEntry x ∧
    e = .malformedSort x.compact

theorem isEntry_iff : IsEntry x ↔ ∃ p, StatesEntry x p := by
  constructor
  · rintro ⟨field, j, rfl⟩
    exact ⟨_, .pair (Direction.ofDocument_eq_iff.1 rfl)⟩
  · rintro ⟨_, ⟨h⟩⟩
    exact ⟨_, _, rfl⟩

theorem computes_entry (x : Json) :
    Computes (entry x) (StatesEntry x) fun e => ¬IsEntry x ∧ e = .malformedSort x.compact := by
  apply Computes.of_total
  · rintro _ ⟨h⟩
    rw [entry, Direction.ofDocument_eq_iff.2 h]
  · rintro _ ⟨hx, rfl⟩
    unfold entry
    split
    · exact absurd ⟨_, _, rfl⟩ hx
    · rfl
  · rw [← isEntry_iff]
    by_cases hx : IsEntry x
    · exact .inl hx
    · exact .inr ⟨_, hx, rfl⟩

theorem computes_sequence (entries : List Json) :
    Computes (sequence entries).normalize (List.Forall₂ StatesEntry entries) (Malformed entries) := by
  have h := Computes.mapM fun x (_ : x ∈ entries) => computes_entry x
  simp only [← isEntry_iff] at h
  exact h

theorem normalizes_sequence_iff :
    (∃ pairs, (sequence entries).normalize = .ok pairs) ↔ ∀ x ∈ entries, IsEntry x := by
  simp only [isEntry_iff, ← exists_forall₂_iff]
  exact exists_congr (computes_sequence entries).ok_iff

theorem states_keyed (members : List (String × Json)) :
    List.Forall₂ (fun m p => StatesEntry (.array [.string m.1, m.2]) p) members
      (members.map fun m => (m.1, .ofDocument m.2)) := by
  rw [List.forall₂_map_right_iff, List.forall₂_same]
  intro m _
  exact .pair (Direction.ofDocument_eq_iff.1 rfl)

theorem bytes_keyed_ascending (h : Keyed.Ascending members) :
    (members.map fun m => (m.1, Direction.ofDocument m.2)).Pairwise
      fun p q => Text.bytes p.1 < Text.bytes q.1 :=
  List.pairwise_map.2 (h.imp Text.bytes_lt_iff.2)

end SortSpec

/-! ## The clause of a selection -/

namespace Statement

variable {d : Dialect} {table : String} {c : Criteria} {sort : SortSpec} {e : CompileError}
  {pairs : List (String × Direction)}

/-- The clause that puts rows in order by some fields; there is none for no fields. -/
def orderClause (d : Dialect) : List (String × Direction) → String
  | [] => ""
  | pairs => " ORDER BY " ++
      ", ".intercalate (pairs.map fun p => d.quoteName p.1 ++ " " ++ p.2.keyword)

theorem toList_orderClause (q : Sql.Select) : (orderClause d q.order).toList =
    Sql.part " ORDER BY " (q.order?.map (Sql.orderChars d)) := by
  cases horder : q.order with
  | nil => simp [orderClause, Sql.Select.order?, horder, Sql.part]
  | cons p pairs =>
    have hclause : (orderClause d (p :: pairs)).toList =
        " ORDER BY ".toList ++ Sql.orderChars d (p :: pairs) := by
      have hfields : ((p :: pairs).map fun r => d.quoteName r.1 ++ " " ++ r.2.keyword).map String.toList =
          (p :: pairs).map fun r => Sql.quoted d r.1 ++ ' ' :: r.2.keyword.toList := by
        simp [Sql.quoted]
      show (" ORDER BY " ++ ", ".intercalate _).toList = _
      rw [String.toList_append, String.toList_intercalate, hfields]
      rfl
    rw [hclause, Sql.Select.order?, horder, if_neg (List.cons_ne_nil _ _)]
    rfl

/-- A sort that can be put in order adds its clause to the text of a selection, behind the filter and in
front of the page, and the order of its fields to what is read there. -/
theorem select_sorted (h : sort.normalize = .ok pairs) :
    ∃ head tail vs q,
      select d table { c with sort := none } = .ok ⟨head ++ tail, vs⟩ ∧
      Sql.Command.read? d (head ++ tail) = some (.select q) ∧ q.order = [] ∧
      select d table { c with sort := some sort } = .ok ⟨head ++ orderClause d pairs ++ tail, vs⟩ ∧
      Sql.Command.read? d (head ++ orderClause d pairs ++ tail) =
        some (.select { q with order := pairs }) := by
  let q : Sql.Select := ⟨table, c.filter.map Filter.condition, [], (page d c.limit c.skip).1,
    (page d c.limit c.skip).2⟩
  let head := String.ofList ("SELECT * FROM ".toList ++ (Sql.quoted d table ++
    Sql.part " WHERE " (q.condition.map (Sql.conditionChars d))))
  let tail := String.ofList (Sql.part " LIMIT " (q.limit.map Text.integer) ++
    Sql.part " OFFSET " (q.offset.map Text.natural))
  have htext : ∀ order, (Sql.Command.select { q with order := order }).text d =
      head ++ orderClause d order ++ tail := by
    intro order
    apply String.toList_injective
    rw [Sql.Command.toList_text, String.toList_append, String.toList_append,
      toList_orderClause { q with order := order }]
    show Sql.Select.chars d _ = _
    rw [Sql.Select.chars_eq]
    simp only [head, tail, String.toList_ofList, List.append_assoc, List.append_nil]
    rfl
  have hplain : head ++ tail = (Sql.Command.select q).text d := by
    rw [show q = { q with order := [] } from rfl, htext, orderClause, String.append_empty]
  refine ⟨head, tail, (c.filter.map Filter.operands).getD [], q, ?_, ?_, rfl, ?_, ?_⟩
  · rw [hplain]
    exact select_eq_ok_iff.2 ⟨[], rfl, rfl⟩
  · rw [hplain]
    exact Sql.Command.read?_select q
  · rw [← htext]
    exact select_eq_ok_iff.2 ⟨pairs, h, rfl⟩
  · rw [← htext]
    exact Sql.Command.read?_select _

end Statement

namespace Datasource

variable {ds : Datasource} {table : String} {c : Criteria} {sort : SortSpec} {e : CompileError}

theorem selectRows_unsorted (h : sort.normalize = .error e) :
    ds.selectRows table { c with sort := some sort } = Dialogue.done (.error (.compile e)) := by
  have hselect : Statement.select ds.dialect table { c with sort := some sort } = .error e := by
    have horder : Criteria.order { c with sort := some sort } = .error e := h
    rw [Statement.select, Statement.selectCommand_eq, horder]
    rfl
  rw [selectRows, compileSelect, hselect]
  rfl

end Datasource

namespace SortSpec

/-- A sequence is put in order exactly if all of it are entries, each field standing where its entry does,
and fails with the first that is none; the members of an object are always put in order, by their keys.
Pairs of a field and a number are read as they are built, and never fail. What is put in order is a clause
of every selection, and what cannot be keeps it from being sent. -/
theorem normalizes_or_stops :
    (∀ entries : List Json,
      ((∃ pairs, (sequence entries).normalize = .ok pairs) ↔ ∀ x ∈ entries, IsEntry x) ∧
      (∀ pairs, (sequence entries).normalize = .ok pairs ↔ List.Forall₂ StatesEntry entries pairs) ∧
      ∀ e, (sequence entries).normalize = .error e ↔ Malformed entries e) ∧
    (∀ members, Keyed.Ascending members → ∃ pairs, (keyed members).normalize = .ok pairs ∧
      List.Forall₂ (fun m p => StatesEntry (.array [.string m.1, m.2]) p) members pairs ∧
      pairs.Pairwise fun p q => Text.bytes p.1 < Text.bytes q.1) ∧
    (∀ pairs : List (String × Int64),
      (ordered pairs).normalize =
        .ok (pairs.map fun p => (p.1, if p.2 = 1 then .ascending else .descending)) ∧
      ofDocument (.array (pairs.map fun p =>
        .array [.string p.1, .number (.integer (.ofInt64 p.2))])) = .ok (ordered pairs)) ∧
    ∀ (ds : Datasource) (table : String) (c : Criteria) (sort : SortSpec),
      (∀ pairs, sort.normalize = .ok pairs → ∃ head tail vs q,
        Statement.select ds.dialect table { c with sort := none } = .ok ⟨head ++ tail, vs⟩ ∧
        Sql.Command.read? ds.dialect (head ++ tail) = some (.select q) ∧ q.order = [] ∧
        Statement.select ds.dialect table { c with sort := some sort } =
          .ok ⟨head ++ Statement.orderClause ds.dialect pairs ++ tail, vs⟩ ∧
        Sql.Command.read? ds.dialect (head ++ Statement.orderClause ds.dialect pairs ++ tail) =
          some (.select { q with order := pairs })) ∧
      ∀ e, sort.normalize = .error e →
        ∀ (σ : Type) (answer : (call : Call) → σ → call.Reply × σ) (s : σ),
          Dialogue.transcript answer (ds.selectRows table { c with sort := some sort }) s = [] ∧
          Dialogue.run answer (ds.selectRows table { c with sort := some sort }) s =
            (.error (.compile e), s) := by
  refine ⟨?_, ?_, ?_, ?_⟩
  · intro entries
    exact ⟨normalizes_sequence_iff, (computes_sequence entries).ok_iff,
      (computes_sequence entries).error_iff⟩
  · intro members hmembers
    exact ⟨_, rfl, states_keyed members, bytes_keyed_ascending hmembers⟩
  · intro pairs
    exact ⟨normalize_ordered pairs, rfl⟩
  · intro ds table c sort
    refine ⟨fun pairs h => Statement.select_sorted h, ?_⟩
    intro e h σ answer s
    rw [Datasource.selectRows_unsorted h]
    exact ⟨rfl, rfl⟩

/-- A field that is named twice, once with a direction between white space of two kinds, and a third entry
without a direction. -/
theorem normalizes_or_stops_people :
    let twice : List Json :=
      [.array [.string "age", .string "\u00a0Asc\t"], .array [.string "age", .number (.float .zero)]]
    let broken := twice ++ [.array [.string "name"], .null]
    (sequence twice).normalize = .ok [("age", .ascending), ("age", .descending)] ∧
    ∀ (ds : Datasource) (c : Criteria) (script : Script),
      Dialogue.transcript Script.answer
        (ds.selectRows "people" { c with sort := some (sequence broken) }) script = [] ∧
      (Dialogue.run Script.answer
        (ds.selectRows "people" { c with sort := some (sequence broken) }) script).1 =
          .error (.compile (.malformedSort "[\"name\"]")) := by
  intro twice broken
  obtain ⟨hsequences, -, -, hselected⟩ := normalizes_or_stops
  have htwice : ∀ y ∈ twice, IsEntry y :=
    List.forall_mem_cons.2 ⟨⟨_, _, rfl⟩, List.forall_mem_singleton.2 ⟨_, _, rfl⟩⟩
  have hbroken : (sequence broken).normalize = .error (.malformedSort "[\"name\"]") := by
    have hname : ¬IsEntry (.array [.string "name"]) := by
      rintro ⟨field, j, h⟩
      cases h
    exact ((hsequences broken).2.2 _).2 ⟨twice, _, [.null], rfl, htwice, hname, by decide +kernel⟩
  constructor
  · have hcore : Text.Padded "Asc".toList "\u00a0Asc\t".toList :=
      ⟨['\u00a0'], ['\t'], rfl, by decide, by decide⟩
    have hword : (Json.string "\u00a0Asc\t").StatesAscending := .word hcore (by decide)
    have hzero : ¬(Json.number (.float .zero)).StatesAscending := by
      rw [← Direction.ofDocument_eq_ascending_iff]
      decide
    exact ((hsequences twice).2.1 _).2
      (.cons (.pair (iff_of_true rfl hword)) (.cons (.pair (iff_of_false nofun hzero)) .nil))
  · intro ds c script
    obtain ⟨hsent, hrun⟩ := (hselected ds "people" c _).2 _ hbroken Script Script.answer script
    exact ⟨hsent, congrArg Prod.fst hrun⟩

end SortSpec

end SqlAdapter
