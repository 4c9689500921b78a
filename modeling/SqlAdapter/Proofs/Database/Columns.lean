import SqlAdapter.Database.Basic
import SqlAdapter.Proofs.Sql.Reading

/-!
# The columns of a table

How a database in memory answers the statements that bring a table up to a schema. A created table stays
as it is when it is created again, a listing gives the columns in their order, and a new column comes
after the others unless its name is taken.
-/

set_option autoImplicit false

namespace SqlAdapter

section

variable {α : Type} {p : α → Bool} {f : α → α}

theorem find?_modify_findIdx (l : List α) (h : ∀ a, p (f a) = p a) :
    (l.modify (l.findIdx p) f).find? p = (l.find? p).map f := by
  induction l with
  | nil => rfl
  | cons a l ih =>
    cases ha : p a with
    | true => simp [List.findIdx_cons, ha, h]
    | false => simp [List.findIdx_cons, ha, ih]

end

theorem Column.ofRow_eq {table : String} {r : Record} {c : Column}
    (hname : r.get? "name" = some (.text c.name)) (htype : r.get? "type" = some (.text c.type)) :
    ofRow table r = .ok c := by
  rw [ofRow, part?, part?, hname, htype]

theorem Column.ofRow_listed (table : String) (c : Column) :
    ofRow table (.ofList [("name", .text c.name), ("type", .text c.type)]) = .ok c := by
  have hrow : Record.ofList [("name", .text c.name), ("type", .text c.type)] =
      ((∅ : Record).insert "name" (.text c.name)).insert "type" (.text c.type) := rfl
  rw [hrow]
  apply Column.ofRow_eq
  · rw [Record.get?_insert, if_neg (by decide), Record.get?_insert, if_pos rfl]
  · rw [Record.get?_insert, if_pos rfl]

theorem LiveSchema.ofRows_map {table : String} {row : Column → Record} {g : Column → Column}
    (h : ∀ c, Column.ofRow table (row c) = .ok (g c)) (cs : List Column) :
    ofRows table (cs.map row) = .ok ⟨cs.map g⟩ := by
  have hrows : (cs.map row).mapM (Column.ofRow table) = .ok (cs.map g) := by
    induction cs with
    | nil => rfl
    | cons c cs ih =>
      rw [List.map_cons, List.mapM_cons, h, ih]
      rfl
  rw [ofRows, hrows]
  rfl

namespace Database

variable {db : Database} {d : Dialect} {table key : String} {c : Column}

/-- The columns of a table; one that does not exist has none. -/
def columns (db : Database) (table : String) : List Column :=
  ((db.table? table).map Table.columns).getD []

@[simp] theorem dialect_createTable : (db.createTable table key).dialect = db.dialect := by
  unfold createTable
  split <;> rfl

@[simp] theorem rule_createTable : (db.createTable table key).rule = db.rule := by
  unfold createTable
  split <;> rfl

theorem table?_createTable : ((db.createTable table key).table? table).isSome := by
  unfold createTable
  split
  · next h => rw [h]; rfl
  · unfold table?
    rw [List.find?_isSome]
    exact ⟨_, List.mem_append_right _ (List.mem_singleton_self _), NameRule.same_refl _ _⟩

theorem createTable_eq_self (h : (db.table? table).isSome) : db.createTable table key = db := by
  obtain ⟨t, ht⟩ := Option.isSome_iff_exists.1 h
  rw [createTable, ht]

/-- A created table has its former columns, or its key alone. -/
theorem columns_createTable : (db.createTable table key).columns table =
    ((db.table? table).map Table.columns).getD [⟨key, db.dialect.keyType⟩] := by
  cases ht : db.table? table with
  | some t =>
    rw [createTable_eq_self (by rw [ht]; rfl), columns, ht]
    rfl
  | none =>
    have hfound : (db.createTable table key).table? table =
        some (.fresh table [⟨key, db.dialect.keyType⟩] (some key)) := by
      unfold createTable
      rw [ht]
      unfold table? at ht ⊢
      rw [List.find?_append, ht]
      simp [Table.fresh]
    rw [columns, hfound]
    rfl

theorem table?_update_addColumn :
    (db.update table (·.addColumn c)).table? table = (db.table? table).map (·.addColumn c) :=
  find?_modify_findIdx db.tables fun _ => rfl

theorem isSome_table?_update_addColumn (h : (db.table? table).isSome) :
    ((db.update table (·.addColumn c)).table? table).isSome := by
  rw [table?_update_addColumn, Option.isSome_map]
  exact h

/-- The database speaks a dialect and has a table. -/
structure Ready (db : Database) (d : Dialect) (table : String) : Prop where
  dialect : db.dialect = d
  there : (db.table? table).isSome

theorem ready_createTable (h : db.dialect = d) : (db.createTable table key).Ready d table :=
  ⟨dialect_createTable.trans h, table?_createTable⟩

theorem Ready.addColumn (h : db.Ready d table) (c : Column) :
    (db.update table (·.addColumn c)).Ready d table :=
  ⟨h.dialect, isSome_table?_update_addColumn h.there⟩

theorem columns_update_addColumn (h : (db.table? table).isSome) :
    (db.update table (·.addColumn c)).columns table = db.columns table ++ [c] := by
  obtain ⟨t, ht⟩ := Option.isSome_iff_exists.1 h
  rw [columns, columns, table?_update_addColumn, ht]
  rfl

theorem columnRows_eq : db.columnRows table = (db.columns table).map fun c =>
    Record.ofList [("name", .text c.name), ("type", .text c.type)] := by
  rw [columnRows, columns]
  cases db.table? table <;> rfl

theorem ofRows_columnRows (db : Database) (table : String) :
    LiveSchema.ofRows table (db.columnRows table) = .ok ⟨db.columns table⟩ := by
  rw [columnRows_eq, LiveSchema.ofRows_map (Column.ofRow_listed table), List.map_id']

/-- No column of the table has the same name. -/
def Free (db : Database) (table name : String) : Prop :=
  ∀ c ∈ db.columns table, db.rule.same c.name name = false

theorem has_eq_false_iff {t : Table} {name : String} (ht : db.table? table = some t) :
    t.has db.rule name = false ↔ db.Free table name := by
  have hc : db.columns table = t.columns := by rw [columns, ht]; rfl
  simp [Free, hc, Table.has, Table.column?]

theorem free_iff_of_exact {name : String} (hrule : db.rule = .exact) :
    db.Free table name ↔ name ∉ (db.columns table).map Column.name := by
  simp [Free, hrule, NameRule.same]

theorem addColumn_eq_ok {new : Database} (h : db.addColumn table c = .ok new) :
    ∃ t, db.table? table = some t ∧ t.has db.rule c.name = false ∧
      new = db.update table (·.addColumn c) := by
  unfold addColumn at h
  split at h
  · cases h
  · next t ht =>
    split at h
    · cases h
    · next hfree =>
      cases h
      exact ⟨t, ht, by simpa using hfree, rfl⟩

/-! ## Answers -/

theorem run_ofCommand (q : Sql.Command) (h : q.Configures) (vs : List Value) :
    db.run (Statement.ofCommand db.dialect q vs) = db.perform q (vs.map Value.stored) := by
  rw [run, Statement.ofCommand, Sql.Command.read?_text h]

theorem answer_createTable (hd : db.dialect = d) :
    answer (.execute (.createTable d table key)) db =
      (.ok (.affected 0), db.createTable table key) := by
  rw [answer, Statement.createTable, ← hd, run_ofCommand (.createTable table key) trivial]
  rfl

theorem answer_listColumns (hd : db.dialect = d) :
    answer (.query (.listColumns d table)) db = (.ok (db.columnRows table), db) := by
  rw [answer, Statement.listColumns, ← hd, run_ofCommand .listColumns trivial]
  rfl

theorem answer_addColumn (hd : db.dialect = d) (ht : (db.table? table).isSome)
    (hfree : db.Free table c.name) :
    answer (.execute (.addColumn d table c.name c.type)) db =
      (.ok (.affected 0), db.update table (·.addColumn c)) := by
  obtain ⟨t, ht⟩ := Option.isSome_iff_exists.1 ht
  have hhas : t.has db.rule c.name = false := (has_eq_false_iff ht).2 hfree
  rw [answer, Statement.addColumn, ← hd, run_ofCommand (.addColumn table c.name c.type) trivial]
  simp only [perform, addColumn, ht, hhas]
  rfl

theorem answer_addColumn_taken (hd : db.dialect = d) (ht : (db.table? table).isSome)
    (htaken : ¬db.Free table c.name) :
    answer (.execute (.addColumn d table c.name c.type)) db =
      (.error (duplicateColumn c.name).toError, db) := by
  obtain ⟨t, ht⟩ := Option.isSome_iff_exists.1 ht
  have hhas : t.has db.rule c.name = true := by
    rw [← Bool.not_eq_false, has_eq_false_iff ht]
    exact htaken
  rw [answer, Statement.addColumn, ← hd, run_ofCommand (.addColumn table c.name c.type) trivial]
  simp only [perform, addColumn, ht, hhas]
  rfl

end Database

end SqlAdapter
