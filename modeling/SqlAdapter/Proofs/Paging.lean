import Mathlib.Logic.Basic
import SqlAdapter.Database.Basic
import SqlAdapter.Datasource.Rows
import SqlAdapter.Proofs.Selection
import SqlAdapter.Proofs.Sql.Rows

/-!
# Pages

The page of a selection drops the first rows and limits the number of the others. Every dialect spells a
page in a way that keeps the rows that the page asks for, and takes that spelling itself, but for numbers
that do not fit a signed integer of 64 bits: SQLite takes none of those.
-/

set_option autoImplicit false

namespace SqlAdapter

/-- Whether a dialect takes a limit and an offset. In MySQL and SQLite a limit must stand before an offset;
the numbers of MySQL are unsigned, those of SQLite signed, both of 64 bits. SQLite alone takes a limit below
zero, which is no limit. -/
def Dialect.TakesPage (limit : Option Int) (offset : Option Nat) : Dialect → Prop
  | generic => ∀ n ∈ limit, 0 ≤ n
  | mysql => (offset.isSome → limit.isSome) ∧ (∀ n ∈ limit, 0 ≤ n ∧ n < 18446744073709551616) ∧
      ∀ n ∈ offset, n < 18446744073709551616
  | sqlite => (offset.isSome → limit.isSome) ∧
      (∀ n ∈ limit, -9223372036854775808 ≤ n ∧ n < 9223372036854775808) ∧
      ∀ n ∈ offset, n < 9223372036854775808

namespace Criteria

/-- The limit and the number of rows to skip fit a signed integer of 64 bits. -/
def FitsSigned (c : Criteria) : Prop :=
  (∀ n ∈ c.limit, n.toNat < 9223372036854775808) ∧ ∀ n ∈ c.skip, n.toNat < 9223372036854775808

/-- The rows that are left when the first ones are skipped, as many as the limit allows. -/
def pageOf {α : Type} (c : Criteria) (rows : List α) : List α :=
  let rest := rows.drop ((c.skip.map UInt64.toNat).getD 0)
  match c.limit with
  | some n => rest.take n.toNat
  | none => rest

/-- The criteria for all rows, not for one page of them. -/
def unpaged (c : Criteria) : Criteria := { c with limit := none, skip := none }

end Criteria

theorem Except.mapError_eq_ok_iff {α ε ε' : Type} {x : Except ε α} {f : ε → ε'} {a : α} :
    x.mapError f = .ok a ↔ x = .ok a := by
  constructor
  · intro h
    cases x with
    | error e => cases h
    | ok b => exact congrArg Except.ok (Except.ok.inj h)
  · rintro rfl
    rfl

theorem Table.map_page {α β : Type} (limit : Option Int) (offset : Option Nat) (f : α → β)
    (rows : List α) : (page limit offset rows).map f = page limit offset (rows.map f) := by
  unfold page
  cases limit with
  | none => exact List.map_drop
  | some n =>
    by_cases hn : n < 0
    · simp only [if_pos hn, List.map_drop]
    · simp only [if_neg hn, List.map_take, List.map_drop]

namespace Statement

variable {d : Dialect} {table : String} {c : Criteria} {s : Statement}

theorem takesPage_page_iff :
    d.TakesPage (page d c.limit c.skip).1 (page d c.limit c.skip).2 ↔
      (d = .sqlite → c.FitsSigned) := by
  have hsigned : ∀ n : UInt64,
      (n.toNat : Int) < 9223372036854775808 ↔ n.toNat < 9223372036854775808 := by
    intro n
    omega
  cases d with
  | generic =>
    apply iff_of_true
    · cases c.limit <;> cases c.skip <;> simp [page, Dialect.TakesPage, Dialect.unbounded?]
    · intro h
      cases h
  | mysql =>
    apply iff_of_true
    · have hoffset : ∀ n ∈ c.skip.map UInt64.toNat, n < 18446744073709551616 := by
        intro n hn
        obtain ⟨k, -, rfl⟩ := Option.map_eq_some_iff.1 hn
        exact k.toNat_lt
      cases hl : c.limit with
      | some n =>
        have hn : n.toNat < 18446744073709551616 := n.toNat_lt
        refine ⟨fun _ => rfl, ?_, hoffset⟩
        rintro _ ⟨⟩
        omega
      | none =>
        cases hk : c.skip with
        | none => simp [page, Dialect.TakesPage]
        | some k =>
          rw [hk] at hoffset
          refine ⟨fun _ => rfl, ?_, hoffset⟩
          rintro _ ⟨⟩
          omega
    · intro h
      cases h
  | sqlite =>
    rw [forall_prop_of_true rfl]
    cases hl : c.limit <;> cases hk : c.skip <;>
      simp [page, Dialect.TakesPage, Dialect.unbounded?, Criteria.FitsSigned, hl, hk, hsigned]

/-- A page keeps the rows that the criteria ask for. The number that MySQL has for no limit is larger than
any number of rows. -/
theorem page_keeps {α : Type} {rows : List α} (h : rows.length < 9223372036854775808) :
    Table.page (page d c.limit c.skip).1 (page d c.limit c.skip).2 rows = c.pageOf rows := by
  unfold Criteria.pageOf
  cases hl : c.limit with
  | some n =>
    have hnonneg : ¬(n.toNat : Int) < 0 := by omega
    simp only [page, Table.page, if_neg hnonneg, Int.toNat_natCast]
  | none =>
    cases hk : c.skip with
    | none => rfl
    | some k =>
      cases d with
      | generic => rfl
      | sqlite => rfl
      | mysql =>
        have hrest : (rows.drop k.toNat).length ≤ 18446744073709551615 := by
          rw [List.length_drop]
          omega
        exact List.take_of_length_le hrest

end Statement

namespace Database

variable {db : Database} {d : Dialect} {q : Sql.Select} {vs : List Value}

theorem pageFits_of_takesPage (h : Dialect.sqlite.TakesPage q.limit q.offset) : pageFits q := by
  obtain ⟨-, hlimit, hoffset⟩ := h
  have hl : (q.limit.all fun n => decide (n < 9223372036854775808)) = true := by
    rw [Option.all_eq_true]
    exact fun n hn => decide_eq_true (hlimit n hn).2
  have hk : (q.offset.all fun n => decide (n < 9223372036854775808)) = true := by
    rw [Option.all_eq_true]
    exact fun n hn => decide_eq_true (hoffset n hn)
  simp only [pageFits, hl, hk, Bool.or_true, Bool.and_true]

theorem select_page (h : db.dialect.TakesPage q.limit q.offset) :
    db.select q vs =
      (db.select { q with limit := none, offset := none } vs).map (Table.page q.limit q.offset) := by
  have hpage : ¬(db.dialect = .sqlite ∧ !pageFits q) := by
    rintro ⟨hd, hq⟩
    rw [hd] at h
    rw [pageFits_of_takesPage h] at hq
    cases hq
  have hall : ¬(db.dialect = .sqlite ∧ !pageFits { q with limit := none, offset := none }) := by
    rintro ⟨-, hq⟩
    cases hq
  simp only [select, if_neg hpage, if_neg hall]
  cases db.table? q.table with
  | none => rfl
  | some t =>
    dsimp only
    split
    · rfl
    · exact congrArg Except.ok (Table.map_page ..)

variable {ds : Datasource} {table : String} {c : Criteria} {order : List (String × Direction)}

theorem run_selectRows (hd : db.dialect = ds.dialect) (horder : c.order = .ok order) :
    (ds.selectRows table c).run.run answer db =
      ((db.select ⟨table, c.filter.map Filter.condition, order,
          (Statement.page ds.dialect c.limit c.skip).1, (Statement.page ds.dialect c.limit c.skip).2⟩
          (((c.filter.map Filter.operands).getD []).map Value.stored)).mapError DriverFault.toError,
        db) := by
  obtain ⟨s, hs⟩ : ∃ s, Statement.select ds.dialect table c = .ok s :=
    ⟨_, Statement.select_eq_ok_iff.2 ⟨order, horder, rfl⟩⟩
  have hrun : (ds.selectRows table c).run.run answer db = answer (.query s) db := by
    rw [Datasource.selectRows, Datasource.compileSelect, hs]
    rfl
  obtain ⟨order', horder', rfl⟩ := Statement.select_eq_ok_iff.1 hs
  cases horder.symm.trans horder'
  rw [hrun, answer, run, Statement.ofCommand, hd, Sql.Command.read?_select]
  dsimp only [perform]
  cases db.select _ (((c.filter.map Filter.operands).getD []).map Value.stored) <;> rfl

/-- A page that the database takes is this page of the rows that it gives without one. -/
theorem run_selectRows_page {rows : List Record} (hd : db.dialect = ds.dialect)
    (horder : c.order = .ok order)
    (htakes : ds.dialect.TakesPage (Statement.page ds.dialect c.limit c.skip).1
      (Statement.page ds.dialect c.limit c.skip).2)
    (hall : (ds.selectRows table c.unpaged).run.run answer db = (.ok rows, db)) :
    (ds.selectRows table c).run.run answer db =
      (.ok (Table.page (Statement.page ds.dialect c.limit c.skip).1
        (Statement.page ds.dialect c.limit c.skip).2 rows), db) := by
  have hunpaged : (ds.selectRows table c.unpaged).run.run answer db = _ := run_selectRows hd horder
  rw [hall] at hunpaged
  have hrows := Except.mapError_eq_ok_iff.1 (Prod.mk.inj hunpaged).1.symm
  rw [run_selectRows hd horder, select_page (by rw [hd]; exact htakes)]
  exact congrArg (fun found => ((Except.map _ found).mapError DriverFault.toError, db)) hrows

end Database

namespace Statement

variable {ds : Datasource} {table : String} {c : Criteria} {s : Statement}

/-- A selection is written with a page that its dialect takes, SQLite if the numbers fit, and that keeps the
rows which the criteria ask for: where it is taken, a database gives this page of what the same criteria
give it without one. -/
theorem select_pages (h : select ds.dialect table c = .ok s) :
    ∃ q, Sql.Command.read? ds.dialect s.sql = some (.select q) ∧
      (ds.dialect.TakesPage q.limit q.offset ↔ (ds.dialect = .sqlite → c.FitsSigned)) ∧
      (∀ (α : Type) (rows : List α), rows.length < 9223372036854775808 →
        Table.page q.limit q.offset rows = c.pageOf rows) ∧
      ∀ (db : Database) (rows : List Record), db.dialect = ds.dialect →
        rows.length < 9223372036854775808 → ds.dialect.TakesPage q.limit q.offset →
        (ds.selectRows table c.unpaged).run.run Database.answer db = (.ok rows, db) →
        (ds.selectRows table c).run.run Database.answer db = (.ok (c.pageOf rows), db) := by
  obtain ⟨order, horder, rfl⟩ := select_eq_ok_iff.1 h
  refine ⟨_, Sql.Command.read?_select _, takesPage_page_iff, fun _ _ => page_keeps, ?_⟩
  intro db rows hd hrows htakes hall
  rw [Database.run_selectRows_page hd horder htakes hall, page_keeps hrows]

/-- A selection for MySQL that skips a row and has no limit. -/
theorem select_pages_skipping :
    ∃ s q, select .mysql "people" { skip := some 1 } = .ok s ∧
      Sql.Command.read? .mysql s.sql = some (.select q) ∧
      Dialect.mysql.TakesPage q.limit q.offset ∧
      ∀ (α : Type) (rows : List α), rows.length < 9223372036854775808 →
        Table.page q.limit q.offset rows = rows.drop 1 := by
  let ds : Datasource := ⟨.mysql, false⟩
  have hselect : select ds.dialect "people" { skip := some 1 } = .ok _ :=
    select_eq_ok_iff.2 ⟨[], rfl, rfl⟩
  obtain ⟨q, hread, htakes, hkeeps, -⟩ := select_pages hselect
  exact ⟨_, q, hselect, hread, htakes.2 (fun h => nomatch h), hkeeps⟩

/-- A limit that does not fit a signed integer allows every row, and SQLite gives none. -/
theorem select_misses_unsigned_limit :
    let c : Criteria := { limit := some 9223372036854775808 }
    let ds : Datasource := ⟨.sqlite, false⟩
    let table : Table := ⟨"people", [⟨"_id", "VARCHAR(24)"⟩], some "_id", [[.text "a"]], by decide⟩
    let db : Database := ⟨.sqlite, .ignoringCase, [table]⟩
    let ada : Record := .ofList [("_id", .text "a")]
    (∃ s q, select .sqlite "people" c = .ok s ∧
      s.sql = "SELECT * FROM `people` LIMIT 9223372036854775808" ∧
      Sql.Command.read? .sqlite s.sql = some (.select q) ∧
      ¬Dialect.sqlite.TakesPage q.limit q.offset) ∧
    (ds.selectRows "people" c.unpaged).run.run Database.answer db = (.ok [ada], db) ∧
    c.pageOf [ada] = [ada] ∧
    (ds.selectRows "people" c).run.run Database.answer db =
      (.error Database.mismatch.toError, db) := by
  intro c ds table db ada
  have hselect : select .sqlite "people" c = .ok _ := select_eq_ok_iff.2 ⟨[], rfl, rfl⟩
  have htable : db.table? "people" = some table := by decide +kernel
  have horder : c.order = .ok [] := rfl
  have hunpaged : c.unpaged.order = .ok [] := rfl
  refine ⟨⟨_, _, hselect, by decide +kernel, Sql.Command.read?_select _, ?_⟩, ?_, by decide +kernel, ?_⟩
  · rw [takesPage_page_iff]
    intro h
    have hlimit := (h rfl).1 _ rfl
    exact absurd hlimit (by decide)
  · rw [Database.run_selectRows rfl hunpaged, Database.select, htable]
    rfl
  · rw [Database.run_selectRows rfl horder, Database.select, htable]
    rfl

end Statement

end SqlAdapter
