import SqlAdapter.Proofs.Database.Acceptance
import SqlAdapter.Proofs.Database.KeyedTables
import SqlAdapter.Proofs.Insertion
import SqlAdapter.Proofs.Value.Equality

/-!
# Reading a stored row back

A database that answers an insertion with a count is asked for the stored row by the key that the record
gives. The row is found if its key is equal to what the database makes of that key; a null is equal to
nothing, so a row whose key is null is stored and not found. Main statement: in a table that was created
for a model the caller gets the row that was stored exactly if the two keys are equal.
-/

set_option autoImplicit false

namespace SqlAdapter

/-- Asks for the rows whose key has a value. -/
def Sql.Select.byKey (table key : String) : Sql.Select :=
  ⟨table, some (.atom (.compare key .eq)), [], none, none⟩

theorem Statement.lookup_eq {d : Dialect} {table key : String} {v : Value} :
    Statement.lookup d table key v = .ofCommand d (.select (.byKey table key)) [v] := rfl

namespace Table

variable {rule : NameRule} {key : Column} {t : Table} {content : Column → Value} {v : Value}

/-- The rows whose key is equal to a value. -/
def withKey (rule : NameRule) (t : Table) (key : String) (v : Value) : List (List Value) :=
  t.rows.filter fun r => Comparison.truth .eq (t.read rule r key) v = .true

theorem selected_withKey {name key : String} :
    t.selected rule (.byKey name key) [v] = t.withKey rule key v := by
  have hpasses : t.passes rule (some (.atom (.compare key .eq))) [v] =
      fun r => decide (Comparison.truth .eq (t.read rule r key) v = .true) := rfl
  rw [selected, Sql.Select.byKey, arrange_nil, hpasses]
  rfl

/-- A new row whose key is equal to a value is the only one if the key of no other row was equal to its
own. -/
theorem withKey_addRow (h : t.KeyedBy rule key) (hv : ∀ b, v ≠ .bool b)
    (hfree : t.keyTaken rule key.name (content key) = false)
    (hequal : Comparison.truth .eq (content key) v = .true) :
    (t.addRow content).withKey rule key.name v = [t.columns.map content] := by
  obtain ⟨hcontent, -, horder⟩ := Comparison.truth_eq_iff.1 hequal
  have hnew : (t.addRow content).read rule (t.columns.map content) key.name = content key :=
    h.read_key_content
  have hold : t.rows.filter (fun r =>
      Comparison.truth .eq ((t.addRow content).read rule r key.name) v = .true) = [] := by
    rw [List.filter_eq_nil_iff]
    intro r hr hpasses
    obtain ⟨-, -, hsame⟩ := Comparison.truth_eq_iff.1 (of_decide_eq_true hpasses)
    have htaken : t.keyTaken rule key.name (content key) = true := by
      rw [keyTaken, Bool.and_eq_true, List.any_eq_true]
      exact ⟨decide_eq_true hcontent, r, hr,
        decide_eq_true (Value.order_eq_of_order_eq hv hsame horder)⟩
    rw [hfree] at htaken
    cases htaken
  show (t.rows ++ [t.columns.map content]).filter _ = _
  rw [List.filter_append, hold, List.nil_append]
  simp [hnew, hequal]

theorem record_ne_of_mem_withKey (h : t.KeyedBy rule key)
    (hdiffer : Comparison.truth .eq (content key) v ≠ .true) {r : List Value}
    (hr : r ∈ (t.addRow content).withKey rule key.name v) :
    (t.addRow content).record r ≠ (t.addRow content).record (t.columns.map content) := by
  have hkeyed : (t.addRow content).KeyedBy rule key := h.addRow
  obtain ⟨hmem, hpasses⟩ := List.mem_filter.1 hr
  intro hsame
  have hrecord := hkeyed.get?_record ((t.addRow content).width r hmem)
  rw [hsame, hkeyed.get?_record (by simp [addRow])] at hrecord
  have hcontent : (t.addRow content).read rule (t.columns.map content) key.name = content key :=
    h.read_key_content
  rw [hcontent] at hrecord
  rw [← Option.some.inj hrecord] at hpasses
  exact hdiffer (of_decide_eq_true hpasses)

/-- A new row is what a model gets for a value exactly if its key is equal to the value. -/
theorem stored_withKey_iff {m : Model} (h : t.KeyedBy rule key) (hv : ∀ b, v ≠ .bool b)
    (hfree : t.keyTaken rule key.name (content key) = false) :
    m.stored (.ok (((t.addRow content).withKey rule key.name v).map (t.addRow content).record)) =
        .ok ((t.addRow content).record (t.columns.map content)) ↔
      Comparison.truth .eq (content key) v = .true := by
  by_cases hequal : Comparison.truth .eq (content key) v = .true
  · rw [withKey_addRow h hv hfree hequal]
    exact iff_of_true rfl hequal
  · refine iff_of_false ?_ hequal
    intro hgiven
    have hothers : ∀ r ∈ (t.addRow content).withKey rule key.name v,
        (t.addRow content).record r ≠ (t.addRow content).record (t.columns.map content) := fun r hr =>
      record_ne_of_mem_withKey h hequal hr
    cases hfound : (t.addRow content).withKey rule key.name v with
    | nil =>
      rw [hfound] at hgiven
      cases hgiven
    | cons r rs =>
      rw [hfound] at hgiven hothers
      exact hothers r List.mem_cons_self (Except.ok.inj hgiven)

theorem withKey_null {name : String} : t.withKey rule name .null = [] := by
  apply List.filter_eq_nil_iff.2
  intro r _ hpasses
  obtain ⟨-, hnull, -⟩ := Comparison.truth_eq_iff.1 (of_decide_eq_true hpasses)
  exact hnull rfl

end Table

/-! ## Values for placeholders -/

section

variable {rule : NameRule} {a : Affinity} {types : String → String} {entries : List (String × Value)}
  {name : String}

theorem zip_convertAll :
    (entries.map Prod.fst).zip (a.convertAll ((entries.map Prod.fst).map types)
      ((entries.map Prod.snd).map Value.stored)) =
        entries.map fun e => (e.1, a.convert (types e.1) e.2.stored) := by
  induction entries with
  | nil => rfl
  | cons e entries ih =>
    simp only [List.map_cons, Affinity.convertAll, List.zip_cons_cons, ih]

theorem assigned_convertAll {r : Record} {c : Column} {v : Value} (hv : r.get? c.name = some v)
    (honly : ∀ n ∈ r.names, rule.same c.name n → n = c.name) :
    Table.assigned rule r.names (a.convertAll (r.names.map types) (r.values.map Value.stored)) c =
      a.convert (types c.name) v.stored := by
  have hfind : r.entries.find? (fun e => rule.same c.name e.1) =
      r.entries.find? fun e => e.1 = c.name := by
    rw [← List.head?_filter, ← List.head?_filter]
    congr 1
    apply List.filter_congr
    intro e he
    rw [Bool.eq_iff_iff, decide_eq_true_eq]
    constructor
    · exact honly e.1 (List.mem_map_of_mem he)
    · intro hname
      rw [hname]
      exact NameRule.same_refl rule c.name
  obtain ⟨e, he, rfl⟩ := Option.map_eq_some_iff.1 hv
  have hname : e.1 = c.name := by simpa using List.find?_some he
  rw [Table.assigned, Record.names, Record.values, zip_convertAll, List.find?_map]
  simp only [Function.comp_def]
  rw [hfind, he]
  show a.convert (types e.1) e.2.stored = _
  rw [hname]

end

namespace Database

variable {a : Affinity} {db : Database} {d : Dialect} {ds : Datasource} {m : Model} {table : String}
  {key : Column} {t : Table}

theorem columnType_key (ht : db.table? table = some t) (h : t.KeyedBy db.rule key) :
    db.columnType table key.name = key.type := by
  rw [columnType, ht, Option.bind_some, h.column?_key]
  rfl

theorem table?_update_addRow {content : Column → Value} :
    (db.update table (·.addRow content)).table? table = (db.table? table).map (·.addRow content) :=
  find?_modify_findIdx db.tables fun _ => rfl

theorem keyTaken_of_insert {columns : List String} {values : List Value} {new : Database}
    (ht : db.table? table = some t) (h : t.KeyedBy db.rule key)
    (hnew : db.insert table columns values = .ok new) :
    t.keyTaken db.rule key.name (Table.assigned db.rule columns values key) = false := by
  obtain ⟨t', ht', hfree, -⟩ := insert_eq_ok hnew
  obtain rfl : t' = t := Option.some.inj (ht'.symm.trans ht)
  have hkey : t'.key.bind (t'.column? db.rule) = some key := by
    rw [h.key_eq, Option.bind_some, h.column?_key]
  exact hfree key hkey

theorem answerBy_insert {columns : List String} {vs : List Value} (hd : db.dialect = d)
    (hc : columns ≠ []) :
    answerBy a (.execute (.ofCommand d (.insert table columns) vs)) db =
      match db.insert table columns
          (a.convertAll (columns.map (db.columnType table)) (vs.map Value.stored)) with
      | .ok new => (.ok (.affected 1), new)
      | .error e => (.error e.toError, db) := by
  have hrun : db.runBy a (.ofCommand d (.insert table columns) vs) = db.settle 1 (db.insert table columns
      (a.convertAll (columns.map (db.columnType table)) (vs.map Value.stored))) :=
    runBy_ofCommand hd (Sql.Command.read?_insert hc)
  rw [answerBy, hrun]
  cases db.insert table columns
    (a.convertAll (columns.map (db.columnType table)) (vs.map Value.stored)) <;> rfl

theorem insert_of_no_rows {columns : List String} {values : List Value} (ht : db.table? table = some t)
    (hknown : t.unknown? db.rule columns = none) (hrows : t.rows = []) :
    db.insert table columns values =
      .ok (db.update table (·.addRow (Table.assigned db.rule columns values))) := by
  have hfree : ∀ key v, t.keyTaken db.rule key v = false := by
    intro key v
    rw [Table.keyTaken, hrows, List.any_nil, Bool.and_false]
  unfold insert
  rw [ht]
  dsimp only
  rw [hknown]
  dsimp only
  split
  · next key hkey =>
    rw [hfree]
    rfl
  · rfl

theorem answerBy_lookup {v : Value} (hd : db.dialect = d) (ht : db.table? table = some t)
    (h : t.KeyedBy db.rule key) :
    answerBy a (.query (.lookup d table key.name v)) db =
      (.ok ((t.withKey db.rule key.name (a.convert key.type v.stored)).map t.record), db) := by
  have htypes : db.placeholderTypes (.select (.byKey table key.name)) = [key.type] := by
    rw [← columnType_key ht h]
    rfl
  have hknown : t.unknown? db.rule [key.name] = none := by
    simp [Table.unknown?, Table.has, h.column?_key]
  have hselect : db.select (.byKey table key.name) [a.convert key.type v.stored] =
      .ok ((t.withKey db.rule key.name (a.convert key.type v.stored)).map t.record) := by
    have htable : db.table? (Sql.Select.byKey table key.name).table = some t := ht
    have hcolumns : (((Sql.Select.byKey table key.name).condition.map Sql.columnsOf).getD [] ++
        (Sql.Select.byKey table key.name).order.map Prod.fst) = [key.name] := rfl
    have hpage : pageFits (.byKey table key.name) = true := rfl
    unfold select
    rw [htable]
    dsimp only
    rw [hcolumns, hknown, Table.selected_withKey]
    simp [hpage]
  have hrun : db.runBy a (.lookup d table key.name v) =
      db.perform (.select (.byKey table key.name)) [a.convert key.type v.stored] := by
    rw [Statement.lookup_eq, runBy_ofCommand hd (Sql.Command.read?_select _), htypes]
    rfl
  rw [answerBy, hrun, perform, hselect]
  rfl

/-- An acknowledged record is a new row, which is looked up by the form that the key of the record takes in
the key column. -/
theorem run_insertRecord {r : Record} {s : Statement} {ack : Ack} {v : Value}
    (hdialect : db.dialect = ds.dialect) (ht : db.table? m.table = some t)
    (h : t.KeyedBy db.rule key) (hname : key.name = m.primaryKey)
    (hv : r.get? m.primaryKey = some v) (hs : Statement.insert ds.dialect m.table r = .ok s)
    (hack : (answerBy a (.execute s) db).1 = .ok ack) :
    ∃ content : Column → Value,
      content = Table.assigned db.rule r.names
        (a.convertAll (r.names.map (db.columnType m.table)) (r.values.map Value.stored)) ∧
      t.keyTaken db.rule key.name (content key) = false ∧
      (ds.insertRecord m r).run (answerBy a) db =
        ((m.stored (.ok (((t.addRow content).withKey db.rule key.name
          (a.convert key.type v.stored)).map (t.addRow content).record)), m.invalidate),
          db.update m.table (·.addRow content)) := by
  have hr : ¬r.isEmpty := by
    intro hempty
    rw [Record.isEmpty, List.isEmpty_iff] at hempty
    simp [Record.get?, hempty] at hv
  have hnames : r.names ≠ [] := by
    simpa [Record.names, Record.isEmpty] using hr
  rw [Statement.insert, if_neg hr, Except.ok.injEq] at hs
  subst hs
  have hanswer : answerBy a (.execute (.ofCommand ds.dialect (.insert m.table r.names) r.values)) db =
      _ := answerBy_insert hdialect hnames
  cases hinsert : db.insert m.table r.names
      (a.convertAll (r.names.map (db.columnType m.table)) (r.values.map Value.stored)) with
  | error e =>
    rw [hanswer, hinsert] at hack
    cases hack
  | ok new =>
    rw [hinsert] at hanswer
    have hfree := keyTaken_of_insert ht h hinsert
    obtain ⟨-, -, -, rfl⟩ := insert_eq_ok hinsert
    refine ⟨_, rfl, hfree, ?_⟩
    generalize Table.assigned db.rule r.names (a.convertAll (r.names.map (db.columnType m.table))
      (r.values.map Value.stored)) = content at hanswer
    have hecho : ∀ row, ¬(Ack.affected 1).Echoes m.primaryKey row := by
      rintro row ⟨rs, hrows, -⟩
      cases hrows
    have hnext : (db.update m.table (·.addRow content)).dialect = ds.dialect := hdialect
    have hthere : (db.update m.table (·.addRow content)).table? m.table = some (t.addRow content) := by
      rw [table?_update_addRow, ht]
      rfl
    have hlookup := answerBy_lookup (a := a) (v := v) hnext hthere h.addRow
    rw [Datasource.insertRecord_of_nonempty hr, Dialogue.run_call, hanswer]
    dsimp only
    rw [Datasource.acknowledged_of_not_echoes hecho, Datasource.readBack_of_key hv,
      Dialogue.call_bind, Dialogue.run_call, ← hname, hlookup]
    rfl

theorem run_insertRecord_null {r : Record} {s : Statement} {ack : Ack} {v : Value}
    (hdialect : db.dialect = ds.dialect) (ht : db.table? m.table = some t)
    (h : t.KeyedBy db.rule key) (hname : key.name = m.primaryKey)
    (hv : r.get? m.primaryKey = some v) (hs : Statement.insert ds.dialect m.table r = .ok s)
    (hack : (answerBy a (.execute s) db).1 = .ok ack) (hnull : v.stored = .null) :
    ((ds.insertRecord m r).run (answerBy a) db).1.1 =
      .error (.driverInconsistency m.table "inserted row not found by primary key") := by
  obtain ⟨content, -, -, hrun⟩ := run_insertRecord hdialect ht h hname hv hs hack
  rw [hrun, (a.convert_eq_null_iff _ _).2 hnull, Table.withKey_null]
  rfl

theorem run_ensureTable {key : String} (hd : ds.dryRun = false) (hdialect : db.dialect = ds.dialect) :
    (Dialogue.run (answerBy a) (ds.ensureTable table key) db).2 = db.createTable table key := by
  unfold Datasource.ensureTable
  rw [Attempt.bind_pure_eq, Datasource.change_eq hd, Dialogue.call_bind, Dialogue.run_call, ← hdialect,
    answerBy_createTable]
  rfl

/-- A table that was created for a model has its key, whatever the database has been asked since. -/
theorem hasKeyed_of_ensured {α : Type} {start : Database} {history : Dialogue α}
    (hd : ds.dryRun = false) (hdialect : start.dialect = ds.dialect)
    (hnone : start.table? m.table = none)
    (hdb : db = (history.run (answerBy a)
      (Dialogue.run (answerBy a) (ds.ensureTable m.table m.primaryKey) start).2).2) :
    db.dialect = ds.dialect ∧ db.HasKeyed m.table ⟨m.primaryKey, ds.dialect.keyType⟩ := by
  rw [run_ensureTable hd hdialect] at hdb
  have hcreated : (start.createTable m.table m.primaryKey).HasKeyed m.table
      ⟨m.primaryKey, start.dialect.keyType⟩ := hasKeyed_createTable hnone
  have hkeyed := hcreated.run (a := a) history
  rw [← hdb, hdialect] at hkeyed
  refine ⟨?_, hkeyed⟩
  rw [hdb, dialect_run, dialect_createTable, hdialect]

/-- In a table that was created for a model, whatever the database has been asked since, an acknowledged
record is the last row. It is given back exactly if its key is equal to the form that the key of the record
takes in the key column. This is so if the key is neither null nor NaN and no other field of the record
names the key column; with a null or a NaN the row is stored, but the caller gets an error. -/
theorem insertRecord_reads_back {α : Type} {start : Database} {history : Dialogue α} {r : Record}
    {s : Statement} {ack : Ack} {key : Value} (hd : ds.dryRun = false)
    (hdialect : start.dialect = ds.dialect) (hnone : start.table? m.table = none)
    (hdb : db = (history.run (answerBy a)
      (Dialogue.run (answerBy a) (ds.ensureTable m.table m.primaryKey) start).2).2)
    (hkey : r.get? m.primaryKey = some key) (hs : Statement.insert ds.dialect m.table r = .ok s)
    (hack : (answerBy a (.execute s) db).1 = .ok ack) :
    let result := (ds.insertRecord m r).run (answerBy a) db
    ∃ old new row, db.table? m.table = some old ∧ result.2.table? m.table = some new ∧
      new.rows = old.rows ++ [row] ∧
      (result.1.1 = .ok (new.record row) ↔ Comparison.truth .eq (new.read db.rule row m.primaryKey)
        (a.convert ds.dialect.keyType key.stored) = .true) ∧
      (key.stored ≠ .null → (∀ n ∈ r.names, db.rule.same m.primaryKey n → n = m.primaryKey) →
        result.1.1 = .ok (new.record row)) ∧
      (key.stored = .null → result.1.1 =
        .error (.driverInconsistency m.table "inserted row not found by primary key")) := by
  intro result
  let c : Column := ⟨m.primaryKey, ds.dialect.keyType⟩
  obtain ⟨hsame, t, ht, hkeyed⟩ := hasKeyed_of_ensured hd hdialect hnone hdb
  obtain ⟨content, hcontent, hfree, hrun⟩ := run_insertRecord hsame ht hkeyed rfl hkey hs hack
  let v := a.convert ds.dialect.keyType key.stored
  let row := t.columns.map content
  have hread : (t.addRow content).read db.rule row m.primaryKey = content c := hkeyed.read_key_content
  have hbool : ∀ b, v ≠ .bool b := fun b hb =>
    key.stored_ne_bool b (a.eq_of_convert_eq_bool _ _ b hb)
  have hgiven : result.1.1 = .ok ((t.addRow content).record row) ↔
      Comparison.truth .eq (content c) v = .true := by
    have hresult := congrArg (fun p => p.1.1) hrun
    rw [hresult]
    exact Table.stored_withKey_iff hkeyed hbool hfree
  refine ⟨t, t.addRow content, row, ht, ?_, rfl, ?_, ?_,
    run_insertRecord_null hsame ht hkeyed rfl hkey hs hack⟩
  · have hstate : result.2 = db.update m.table (·.addRow content) := congrArg Prod.snd hrun
    rw [hstate, table?_update_addRow, ht]
    rfl
  · rw [hread]
    exact hgiven
  · intro hnull honly
    have htype : db.columnType m.table m.primaryKey = ds.dialect.keyType := columnType_key ht hkeyed
    have hequal : content c = v := by
      rw [hcontent, assigned_convertAll hkey honly, htype]
    have hv : v ≠ .null := fun h => hnull ((a.convert_eq_null_iff _ _).1 h)
    rw [hgiven, hequal, Comparison.truth_eq_iff]
    exact ⟨hv, hv, v.order_self⟩

/-! ## Two records of one model -/

/-- A model with one field beside its key. -/
def people : Model := { table := "people", schema := ⟨[⟨"name", ⟨"string", {}⟩⟩]⟩ }

/-- A new database with the table of the model. -/
def peopled : Database :=
  (sqlite.createTable people.table people.primaryKey).addFields people.table people.schema.fields

theorem table?_people : sqlite.table? people.table = none := by
  decide +kernel

theorem peopled_eq_run : peopled =
    (Dialogue.run (answerBy a) (Datasource.reconcileColumns ⟨.sqlite, false⟩ people.table people.schema)
      (Dialogue.run (answerBy a) (Datasource.ensureTable ⟨.sqlite, false⟩ people.table people.primaryKey)
        .sqlite).2).2 := by
  let created := sqlite.createTable people.table people.primaryKey
  have hready : created.Ready (Datasource.mk .sqlite false).dialect people.table := ready_createTable rfl
  have hcolumns : created.columns people.table = [⟨"_id", "VARCHAR(24)"⟩] := by
    rw [columns_createTable, table?_people]
    rfl
  have hlacking : Datasource.lacking people.schema ⟨created.columns people.table⟩ =
      people.schema.fields := by
    rw [hcolumns]
    decide +kernel
  have haccepts : created.Accepts people.table people.schema.fields := by
    rw [accepts_iff hready.there]
    unfold Free
    rw [hcolumns]
    decide +kernel
  obtain ⟨-, listed, -, hview, -, hrun⟩ := (serves_answerBy a).reconcileColumns_listed
    (reportsColumns_answerBy a) hready.dialect people.table people.schema
  obtain rfl : listed = created := hview
  rw [hlacking] at hrun
  obtain ⟨-, hstate⟩ := (serves_answerBy a).run_addColumns_accepted (willing_answerBy a) rfl hready
    haccepts
  rw [run_ensureTable rfl rfl, hrun]
  exact hstate.symm

theorem rule_peopled : peopled.rule = .ignoringCase := by
  rw [peopled, rule_addFields, rule_createTable]
  rfl

/-- A record with a key and a name. -/
def arrival (key : Value) : Record where
  entries := [("_id", key), ("name", .text "Ada")]
  ascending := by
    have hlt : "_id" < "name" := by decide +kernel
    exact List.pairwise_pair.2 hlt

theorem insert_arrival {key : Value} : Statement.insert .sqlite people.table (arrival key) =
    .ok (.ofCommand .sqlite (.insert people.table (arrival key).names) (arrival key).values) :=
  if_neg fun h => nomatch h

theorem get?_arrival {key : Value} : (arrival key).get? people.primaryKey = some key := rfl

theorem answerBy_arrival {key : Value} :
    (answerBy a (.execute (.ofCommand .sqlite (.insert people.table (arrival key).names)
      (arrival key).values)) peopled).1 = .ok (.affected 1) := by
  have hdialect : peopled.dialect = .sqlite := by
    rw [peopled, dialect_addFields, dialect_createTable]
    rfl
  have htable : peopled.table? people.table = some
      ((Table.fresh "people" [⟨"_id", "VARCHAR(24)"⟩] (some "_id")).addColumn ⟨"name", "TEXT"⟩) := by
    decide +kernel
  have hnames : (arrival key).names = ["_id", "name"] := rfl
  have hknown : ((Table.fresh "people" [⟨"_id", "VARCHAR(24)"⟩] (some "_id")).addColumn
      ⟨"name", "TEXT"⟩).unknown? peopled.rule (arrival key).names = none := by
    rw [rule_peopled, hnames]
    decide +kernel
  rw [answerBy_insert hdialect (by simp [hnames]), insert_of_no_rows htable hknown rfl]

/-- A record whose key is an integer is given back with the digits of the integer. -/
theorem insertRecord_reads_back_digits :
    ∃ new row,
      ((Datasource.insertRecord ⟨.sqlite, false⟩ people (arrival (.int 5))).run (answerBy .digits)
        peopled).2.table? people.table = some new ∧ new.rows.getLast? = some row ∧
      ((Datasource.insertRecord ⟨.sqlite, false⟩ people (arrival (.int 5))).run (answerBy .digits)
        peopled).1.1 = .ok (new.record row) := by
  obtain ⟨old, new, row, -, hnew, hrows, -, hgiven, -⟩ :=
    @insertRecord_reads_back .digits peopled ⟨.sqlite, false⟩ people _ .sqlite _ (arrival (.int 5)) _ _
      (.int 5) rfl rfl table?_people peopled_eq_run get?_arrival insert_arrival answerBy_arrival
  have hlast : new.rows.getLast? = some row := by simp [hrows]
  have honly : ∀ n ∈ (arrival (.int 5)).names,
      peopled.rule.same people.primaryKey n → n = people.primaryKey := by
    rw [rule_peopled]
    decide +kernel
  exact ⟨new, row, hnew, hlast, hgiven (fun h => nomatch h) honly⟩

/-- The record contains the key and the row is stored, but a null key is looked up in vain. -/
theorem insertRecord_misses_null_key :
    (arrival .null).contains people.primaryKey ∧
    (answer (.execute (.ofCommand .sqlite (.insert people.table (arrival .null).names)
      (arrival .null).values)) peopled).1 = .ok (.affected 1) ∧
    ((Datasource.insertRecord ⟨.sqlite, false⟩ people (arrival .null)).run answer peopled).1.1 =
      .error (.driverInconsistency "people" "inserted row not found by primary key") := by
  rw [← answerBy_plain]
  obtain ⟨hsame, t, ht, hkeyed⟩ := @hasKeyed_of_ensured .plain peopled ⟨.sqlite, false⟩ people _ .sqlite _
    rfl rfl table?_people peopled_eq_run
  refine ⟨by decide +kernel, answerBy_arrival, ?_⟩
  exact run_insertRecord_null hsame ht hkeyed rfl get?_arrival insert_arrival answerBy_arrival rfl

end Database

end SqlAdapter
