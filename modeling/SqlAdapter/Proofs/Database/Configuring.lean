import SqlAdapter.Proofs.Database.Servers

/-!
# Configuring a table of a server

A client that configures a table adds a column for each field that lacks one, in the order of the
declaration; when some of them have theirs, the others are those that lack one still. Main statements: a
run that succeeds has added what could be planned for the created table, and a dry run plans for the table
as it is.
-/

set_option autoImplicit false

namespace SqlAdapter

namespace Datasource

variable {ds : Datasource} {table : String} {f : Field} {fs : List Field}

theorem addColumns_call (hd : ds.dryRun = false)
    (hf : (Datatype.parse? f.descriptor.datatype).isSome) :
    ds.addColumns table (f :: fs) =
      Dialogue.call (.execute (f.addition ds.dialect table)) fun
        | .ok _ => Dialogue.bind (ds.addColumns table fs) fun r =>
            .done (r.map fun l => (f.addition ds.dialect table).sql :: l)
        | .error e => .done (.error (.ddl table (f.addition ds.dialect table).sql e)) := by
  obtain ⟨t, ht⟩ := Option.isSome_iff_exists.1 hf
  rw [addColumns_cons ht, change_eq hd, Field.addition, Field.column_eq ht, Dialogue.call_bind]
  congr 1
  funext r
  cases r <;> rfl

theorem addColumns_append (hd : ds.dryRun = false) (done rest : List Field) :
    ds.addColumns table (done ++ rest) = Dialogue.bind (ds.addColumns table done) fun
      | .ok l => Dialogue.bind (ds.addColumns table rest) fun r => .done (r.map (l ++ ·))
      | .error e => .done (.error e) := by
  induction done with
  | nil =>
    have hnone : ds.addColumns table [] = Dialogue.done (.ok []) := rfl
    have hmap : ∀ r : Except Error (List String), r.map ([] ++ ·) = r := by
      intro r
      cases r <;> rfl
    rw [hnone]
    show _ = Dialogue.bind (ds.addColumns table rest) fun r : Except Error (List String) =>
      .done (r.map ([] ++ ·))
    simp only [hmap]
    exact (Dialogue.bind_done _).symm
  | cons f done ih =>
    cases hf : Datatype.parse? f.descriptor.datatype with
    | none =>
      rw [List.cons_append, addColumns_unknown hf, addColumns_unknown hf]
      rfl
    | some t =>
      have htyped : (Datatype.parse? f.descriptor.datatype).isSome := by rw [hf]; rfl
      rw [List.cons_append, addColumns_call hd htyped, addColumns_call hd htyped, ih,
        Dialogue.call_bind]
      congr 1
      funext reply
      cases reply with
      | error e => rfl
      | ok ack =>
        dsimp only
        rw [Dialogue.bind_assoc, Dialogue.bind_assoc]
        congr 1
        funext r
        cases r with
        | error e => rfl
        | ok l =>
          simp only [Except.map, Dialogue.done_bind]
          rw [Dialogue.bind_assoc]
          congr 1
          funext r
          cases r <;> rfl

theorem planTexts_error {d : Dialect} {e : Error} (h : planTexts d table fs = .error e) :
    ∃ f ∈ fs, e = .unknownDatatype table f.name f.descriptor.datatype := by
  induction fs with
  | nil => cases h
  | cons f fs ih =>
    rw [planTexts_cons] at h
    cases ht : Datatype.parse? f.descriptor.datatype with
    | none =>
      rw [newColumn, ht] at h
      cases h
      exact ⟨f, List.mem_cons_self, rfl⟩
    | some t =>
      rw [newColumn_eq ht] at h
      cases hfs : planTexts d table fs with
      | ok l =>
        rw [hfs] at h
        cases h
      | error e' =>
        rw [hfs] at h
        cases h
        obtain ⟨g, hg, rfl⟩ := ih hfs
        exact ⟨g, List.mem_cons_of_mem f hg, rfl⟩

/-- When the first of the lacking fields have their columns, the others are lacking. -/
theorem lacking_append {schema : Schema} {cs : List Column} {fs rest : List Field}
    (hn : schema.names.Nodup) (h : lacking schema ⟨cs⟩ = fs ++ rest) :
    lacking schema ⟨cs ++ fs.map Field.column⟩ = rest := by
  have hsub : ((fs ++ rest).map Field.name).Nodup := by
    rw [← h]
    exact hn.sublist (List.filter_sublist.map _)
  rw [List.map_append, List.nodup_append] at hsub
  have hfs : fs.filter (fun f => f.name ∉ fs.map Field.name) = [] := by
    rw [List.filter_eq_nil_iff]
    intro f hf
    simpa using ⟨f, hf, rfl⟩
  have hrest : rest.filter (fun f => f.name ∉ fs.map Field.name) = rest := by
    rw [List.filter_eq_self]
    intro f hf
    have hne : f.name ∉ fs.map Field.name := fun hm =>
      hsub.2.2 _ hm _ (List.mem_map_of_mem hf) rfl
    simpa using hne
  have hboth : lacking schema ⟨cs ++ fs.map Field.column⟩ =
      (lacking schema ⟨cs⟩).filter fun f => f.name ∉ fs.map Field.name := by
    rw [lacking_eq, lacking_eq, List.filter_filter]
    congr 1
    funext f
    rw [Bool.eq_iff_iff]
    simp only [LiveSchema.names, List.map_append, Field.map_name_map_column, List.mem_append, not_or,
      decide_eq_true_eq, Bool.and_eq_true]
    constructor
    · rintro ⟨hcs, hf⟩
      exact ⟨hf, decide_eq_true hcs⟩
    · rintro ⟨hf, hcs⟩
      exact ⟨of_decide_eq_true hcs, hf⟩
  rw [hboth, h, List.filter_append, hfs, hrest, List.nil_append]

end Datasource

namespace Database

variable {db : Database} {d : Dialect} {table : String} {f : Field} {fs : List Field}

/-- The database with a column more for each field. -/
def addFields (db : Database) (table : String) (fs : List Field) : Database :=
  fs.foldl (fun db f => db.update table (·.addColumn f.column)) db

theorem addFields_cons :
    db.addFields table (f :: fs) =
      (db.update table (·.addColumn f.column)).addFields table fs := rfl

theorem addFields_concat :
    db.addFields table (fs ++ [f]) =
      (db.addFields table fs).update table (·.addColumn f.column) := by
  rw [addFields, List.foldl_append]
  rfl

@[simp] theorem dialect_addFields : (db.addFields table fs).dialect = db.dialect := by
  induction fs generalizing db with
  | nil => rfl
  | cons f fs ih => rw [addFields_cons, ih]; rfl

@[simp] theorem rule_addFields : (db.addFields table fs).rule = db.rule := by
  induction fs generalizing db with
  | nil => rfl
  | cons f fs ih => rw [addFields_cons, ih]; rfl

theorem table?_addFields :
    ((db.addFields table fs).table? table).isSome = (db.table? table).isSome := by
  induction fs generalizing db with
  | nil => rfl
  | cons f fs ih => rw [addFields_cons, ih, table?_update_addColumn, Option.isSome_map]

theorem Ready.addFields (h : db.Ready d table) (fs : List Field) :
    (db.addFields table fs).Ready d table where
  dialect := dialect_addFields.trans h.dialect
  there := by rw [table?_addFields]; exact h.there

theorem columns_addFields (h : (db.table? table).isSome) :
    (db.addFields table fs).columns table = db.columns table ++ fs.map Field.column := by
  induction fs generalizing db with
  | nil => simp [addFields]
  | cons f fs ih =>
    have ht : ((db.update table (·.addColumn f.column)).table? table).isSome := by
      rw [table?_update_addColumn, Option.isSome_map]
      exact h
    rw [addFields_cons, ih ht, columns_update_addColumn h]
    simp

end Database

namespace Serves

variable {σ : Type} {view : σ → Database} {answer : (c : Call) → σ → c.Reply × σ} {s : σ}
  {ds : Datasource} {m : Model} {table : String} {schema : Schema} {fs : List Field} {texts : List String}
  {report : Report} (h : Serves view answer)

include h

/-- The columns are listed, and then those of the lacking fields are added. -/
theorem reconcileColumns_listed (hreports : ReportsColumns view answer)
    (hd : (view s).dialect = ds.dialect) (table : String) (schema : Schema) :
    let reconciling : Dialogue (Except Error Report) := ds.reconcileColumns table schema
    let adding : Dialogue (Except Error (List String)) :=
      ds.addColumns table (Datasource.lacking schema ⟨(view s).columns table⟩)
    ∃ list listed, list.call = .query (.listColumns ds.dialect table) ∧ view listed = view s ∧
      reconciling.transcript answer s = list :: adding.transcript answer listed ∧
      reconciling.run answer s = ((adding.run answer listed).1.map fun l => { statements := l },
        (adding.run answer listed).2) := by
  intro reconciling adding
  obtain ⟨rows, live, listed, hlisted, hlive, halike, hview⟩ := h.listed hd hreports table
  have heq : reconciling = _ := Datasource.reconcileColumns_eq
  refine ⟨⟨.query (.listColumns ds.dialect table), .ok rows⟩, listed, rfl, hview, ?_, ?_⟩
  · rw [heq, Dialogue.transcript_call, hlisted]
    simp only [Except.bind, hlive, Datasource.lacking_eq_of_alike halike, Dialogue.transcript_bind,
      Dialogue.transcript_done, List.append_nil]
    rfl
  · rw [heq, Dialogue.run_call, hlisted]
    simp only [Except.bind, hlive, Datasource.lacking_eq_of_alike halike, Dialogue.run_bind,
      Dialogue.run_done]
    rfl

theorem reconcileColumns_nothing (hreports : ReportsColumns view answer)
    (hd : (view s).dialect = ds.dialect)
    (hnothing : Datasource.lacking schema ⟨(view s).columns table⟩ = []) :
    let reconciling : Dialogue (Except Error Report) := ds.reconcileColumns table schema
    (reconciling.run answer s).1 = .ok {} ∧ view (reconciling.run answer s).2 = view s ∧
      (reconciling.transcript answer s).map Exchange.call =
        [.query (.listColumns ds.dialect table)] := by
  intro reconciling
  have hnone : ds.addColumns table [] = Dialogue.done (.ok []) := rfl
  obtain ⟨list, listed, hlist, hview, htranscript, hrun⟩ :=
    h.reconcileColumns_listed hreports hd table schema
  rw [hnothing, hnone] at htranscript hrun
  refine ⟨congrArg Prod.fst hrun, ?_, ?_⟩
  · rw [hrun]
    exact hview
  · rw [htranscript, List.map_cons, hlist]
    rfl

section

variable (hdry : ds.dryRun = false) (hd : (view s).dialect = ds.dialect)

include hdry hd

/-- Columns that are added without a refusal are those that a plan would add. -/
theorem run_addColumns_ok (hok : (Dialogue.run answer (ds.addColumns table fs) s).1 = .ok texts) :
    Datasource.planTexts ds.dialect table fs = .ok texts ∧
      view (Dialogue.run answer (ds.addColumns table fs) s).2 = (view s).addFields table fs := by
  induction fs generalizing s texts with
  | nil => exact ⟨hok, rfl⟩
  | cons f fs ih =>
    cases ht : Datatype.parse? f.descriptor.datatype with
    | none =>
      rw [Datasource.addColumns_unknown ht] at hok
      cases hok
    | some t =>
      have hf : (Datatype.parse? f.descriptor.datatype).isSome := by rw [ht]; rfl
      rw [Datasource.addColumns_call hdry hf, Dialogue.run_call] at hok ⊢
      obtain ⟨⟨reply, next⟩, hnext⟩ :
          ∃ r, answer (.execute (f.addition ds.dialect table)) s = r := ⟨_, rfl⟩
      rw [hnext] at hok ⊢
      rcases h.of_addition hd hf hnext with ⟨⟨e, rfl⟩, -⟩ | ⟨⟨ack, rfl⟩, hview⟩
      · cases hok
      · simp only [Dialogue.run_bind, Dialogue.run_done] at hok ⊢
        cases hfs : (Dialogue.run answer (ds.addColumns table fs) next).1 with
        | error e =>
          rw [hfs] at hok
          cases hok
        | ok l =>
          have hsame : (view next).dialect = ds.dialect := by rw [hview]; exact hd
          obtain ⟨hplan, hstate⟩ := ih hsame hfs
          rw [hfs] at hok
          obtain rfl := Except.ok.inj hok
          refine ⟨?_, by rw [hstate, hview]; rfl⟩
          rw [Datasource.planTexts_cons, Datasource.newColumn_eq ht, hplan]
          rfl

theorem run_reconcileColumns_ok (hreports : ReportsColumns view answer)
    (hok : (Dialogue.run answer (ds.reconcileColumns table schema) s).1 = .ok report) :
    let fs := Datasource.lacking schema ⟨(view s).columns table⟩
    Datasource.planTexts ds.dialect table fs = .ok report.statements ∧
      report = { statements := report.statements } ∧
      view (Dialogue.run answer (ds.reconcileColumns table schema) s).2 =
        (view s).addFields table fs := by
  intro fs
  obtain ⟨-, listed, -, hview, -, hrun⟩ :=
    h.reconcileColumns_listed hreports hd table schema
  have hsame : (view listed).dialect = ds.dialect := by rw [hview, hd]
  rw [hrun] at hok ⊢
  cases hadded : (Dialogue.run answer (ds.addColumns table fs) listed).1 with
  | error e =>
    rw [hadded] at hok
    cases hok
  | ok texts =>
    obtain ⟨hplan, hstate⟩ := h.run_addColumns_ok hdry hsame hadded
    rw [hadded] at hok
    obtain rfl := Except.ok.inj hok
    exact ⟨hplan, rfl, by rw [hstate, hview]⟩

/-- A run that succeeds has added the columns that it could plan for the created table. -/
theorem run_configureTable_ok (hreports : ReportsColumns view answer) (hm : m.isExternal = false)
    (hok : ((ds.configureTable m).run answer s).1.1 = .ok report) :
    let created := (view s).createTable m.table m.primaryKey
    let fs := Datasource.lacking m.schema ⟨created.columns m.table⟩
    ∃ texts, Datasource.planTexts ds.dialect m.table fs = .ok texts ∧
      report = { statements :=
        (Statement.createTable ds.dialect m.table m.primaryKey).sql :: texts } ∧
      view ((ds.configureTable m).run answer s).2 = created.addFields m.table fs := by
  intro created fs
  obtain ⟨⟨reply, next⟩, hnext⟩ : ∃ r,
      answer (.execute (.createTable ds.dialect m.table m.primaryKey)) s = r := ⟨_, rfl⟩
  rw [Datasource.configureTable_eq hm, Datasource.change_eq hdry, Dialogue.call_bind,
    Dialogue.run_call, hnext] at hok ⊢
  rcases h.of_createTable hd hnext with ⟨⟨e, rfl⟩, -⟩ | ⟨⟨ack, rfl⟩, hview⟩
  · cases hok
  · have hsame : (view next).dialect = ds.dialect := by
      rw [hview, Database.dialect_createTable, hd]
    simp only [Dialogue.done_bind, Dialogue.run_bind, Dialogue.run_done] at hok ⊢
    cases hreconciled : (Dialogue.run answer (ds.reconcileColumns m.table m.schema) next).1 with
    | error e =>
      rw [hreconciled] at hok
      cases hok
    | ok reconciled =>
      obtain ⟨hplan, hreport, hstate⟩ := h.run_reconcileColumns_ok hdry hsame hreports hreconciled
      rw [hreconciled, hreport] at hok
      rw [hview] at hplan hstate
      exact ⟨_, hplan, (Except.ok.inj hok).symm, hstate⟩

end

/-- A dry run plans for the columns that are there and changes nothing. -/
theorem run_configureTable_plan (hreports : ReportsColumns view answer) (hdry : ds.dryRun = true)
    (hd : (view s).dialect = ds.dialect) (hm : m.isExternal = false) :
    ((ds.configureTable m).run answer s).1 =
        (Datasource.reportCreated (.createTable ds.dialect m.table m.primaryKey)
          ((Datasource.planTexts ds.dialect m.table
            (Datasource.lacking m.schema ⟨(view s).columns m.table⟩)).map
              fun l => { statements := l }), m) ∧
      view ((ds.configureTable m).run answer s).2 = view s := by
  obtain ⟨rows, live, next, hnext, hlive, halike, hview⟩ := h.listed hd hreports m.table
  rw [Datasource.configureTable_plan hdry hm, Dialogue.run_call, hnext]
  simp only [Except.bind, hlive, Dialogue.run_done, Datasource.lacking_eq_of_alike halike, true_and]
  exact hview

/-- A dry run is refused nothing. -/
theorem run_configureTable_plan_ne_ddl (hreports : ReportsColumns view answer) (hdry : ds.dryRun = true)
    (hd : (view s).dialect = ds.dialect) (hm : m.isExternal = false) (statement : String)
    (source : Error) :
    ((ds.configureTable m).run answer s).1.1 ≠ .error (.ddl m.table statement source) := by
  intro hrefused
  rw [(h.run_configureTable_plan hreports hdry hd hm).1] at hrefused
  cases hplan : Datasource.planTexts ds.dialect m.table
      (Datasource.lacking m.schema ⟨(view s).columns m.table⟩) with
  | ok l =>
    rw [hplan] at hrefused
    cases hrefused
  | error e =>
    obtain ⟨f, -, rfl⟩ := Datasource.planTexts_error hplan
    rw [hplan] at hrefused
    cases hrefused

end Serves

end SqlAdapter
