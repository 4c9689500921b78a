import SqlAdapter.Proofs.Database.Configuring

/-!
# Accepted columns

Which columns a database lets a client add, whatever names it takes for the same: those of fields that
have datatypes and names that no column and no earlier field has. A willing server adds them one after the
other, and the first field that is not accepted ends the work.
-/

set_option autoImplicit false

namespace SqlAdapter.Database

variable {db : Database} {table name : String} {f : Field} {fs done rest : List Field}

/-- Each field in turn has a datatype and a free name. -/
def Accepts (db : Database) (table : String) : List Field → Prop
  | [] => True
  | f :: fs => (Datatype.parse? f.descriptor.datatype).isSome ∧ db.Free table f.name ∧
      (db.update table (·.addColumn f.column)).Accepts table fs

theorem free_update (ht : (db.table? table).isSome) :
    (db.update table (·.addColumn f.column)).Free table name ↔
      db.Free table name ∧ db.rule.same f.name name = false := by
  unfold Free
  rw [columns_update_addColumn ht]
  simp only [List.forall_mem_append, List.forall_mem_singleton]
  rfl

/-! ## Columns one after the other -/

theorem accepts_append :
    db.Accepts table (done ++ rest) ↔
      db.Accepts table done ∧ (db.addFields table done).Accepts table rest := by
  induction done generalizing db with
  | nil => exact (and_iff_right trivial).symm
  | cons f done ih =>
    rw [addFields_cons, List.cons_append]
    simp only [Accepts, ih, and_assoc]

/-- Fields are accepted one after the other exactly if their datatypes are known, their names are free
at the start, and no two of these are the same. -/
theorem accepts_iff (ht : (db.table? table).isSome) :
    db.Accepts table fs ↔
      (∀ f ∈ fs, (Datatype.parse? f.descriptor.datatype).isSome) ∧
      (∀ f ∈ fs, db.Free table f.name) ∧
      fs.Pairwise fun f g => db.rule.same f.name g.name = false := by
  induction fs generalizing db with
  | nil => simp [Accepts]
  | cons f fs ih =>
    have hnext : ((db.update table (·.addColumn f.column)).table? table).isSome :=
      isSome_table?_update_addColumn ht
    have hrule : (db.update table (·.addColumn f.column)).rule = db.rule := rfl
    rw [Accepts, ih hnext, hrule]
    simp only [free_update ht, List.forall_mem_cons, List.pairwise_cons, forall_and]
    constructor
    · rintro ⟨htyped, hfree, hrest, ⟨hothers, hdiffer⟩, hpairwise⟩
      exact ⟨⟨htyped, hrest⟩, ⟨hfree, hothers⟩, hdiffer, hpairwise⟩
    · rintro ⟨⟨htyped, hrest⟩, ⟨hfree, hothers⟩, hdiffer, hpairwise⟩
      exact ⟨htyped, hfree, hrest, ⟨hothers, hdiffer⟩, hpairwise⟩

theorem free_addFields (ht : (db.table? table).isSome) :
    (db.addFields table done).Free table name ↔
      db.Free table name ∧ ∀ g ∈ done, db.rule.same g.name name = false := by
  unfold Free
  rw [columns_addFields ht, rule_addFields]
  simp only [List.forall_mem_append, List.forall_mem_map]
  rfl

/-- Either all fields are accepted, or those before a first one that has no datatype or no free name. -/
theorem accepts_or_stops (db : Database) (table : String) (fs : List Field) :
    db.Accepts table fs ∨
      ∃ done f rest, fs = done ++ f :: rest ∧ db.Accepts table done ∧
        (Datatype.parse? f.descriptor.datatype = none ∨
          (Datatype.parse? f.descriptor.datatype).isSome ∧
            ¬(db.addFields table done).Free table f.name) := by
  induction fs generalizing db with
  | nil => exact .inl trivial
  | cons f fs ih =>
    by_cases hfree : db.Free table f.name
    · cases ht : Datatype.parse? f.descriptor.datatype with
      | none => exact .inr ⟨[], f, fs, rfl, trivial, .inl ht⟩
      | some t =>
        have htyped : (Datatype.parse? f.descriptor.datatype).isSome := by rw [ht]; rfl
        rcases ih (db.update table (·.addColumn f.column)) with hall | ⟨done, g, rest, rfl, hdone, hstop⟩
        · exact .inl ⟨htyped, hfree, hall⟩
        · exact .inr ⟨f :: done, g, rest, rfl, ⟨htyped, hfree, hdone⟩, hstop⟩
    · cases ht : Datatype.parse? f.descriptor.datatype with
      | none => exact .inr ⟨[], f, fs, rfl, trivial, .inl ht⟩
      | some t => exact .inr ⟨[], f, fs, rfl, trivial, .inr ⟨by rw [ht]; rfl, hfree⟩⟩

theorem accepts_lacking {schema : Schema} (hrule : db.rule = .exact) (ht : (db.table? table).isSome)
    (hn : schema.names.Nodup)
    (hfs : Datasource.lacking schema ⟨db.columns table⟩ = fs)
    (htyped : ∀ f ∈ fs, (Datatype.parse? f.descriptor.datatype).isSome) : db.Accepts table fs := by
  rw [accepts_iff ht]
  refine ⟨htyped, ?_, ?_⟩
  · intro f hf
    rw [← hfs, Datasource.lacking_eq] at hf
    exact (free_iff_of_exact hrule).2 (of_decide_eq_true (List.mem_filter.1 hf).2)
  · have hnames : (fs.map Field.name).Nodup := by
      rw [← hfs]
      exact hn.sublist (List.filter_sublist.map _)
    refine (List.pairwise_map.1 hnames).imp fun hne => ?_
    simpa [hrule, NameRule.same] using hne

end SqlAdapter.Database

/-! ## Willing servers -/

namespace SqlAdapter.Serves

variable {σ : Type} {view : σ → Database} {answer : (c : Call) → σ → c.Reply × σ} {s : σ}
  {ds : Datasource} {m : Model} {table : String} {f : Field} {fs done rest : List Field}
  (h : Serves view answer) (hwilling : Willing view answer) (hdry : ds.dryRun = false)

include h hwilling hdry

section

variable (hready : (view s).Ready ds.dialect table)

include hready

theorem run_addColumns_accepted (haccepts : (view s).Accepts table fs) :
    (Dialogue.run answer (ds.addColumns table fs) s).1 =
        .ok (fs.map fun f => (f.addition ds.dialect table).sql) ∧
      view (Dialogue.run answer (ds.addColumns table fs) s).2 = (view s).addFields table fs := by
  induction fs generalizing s with
  | nil => exact ⟨rfl, rfl⟩
  | cons f fs ih =>
    obtain ⟨htyped, hfree, hfs⟩ := haccepts
    obtain ⟨ack, next, hnext, hview⟩ := h.added hready htyped hwilling hfree
    have hthen := hready.addColumn f.column
    rw [← hview] at hfs hthen
    obtain ⟨hrun, hstate⟩ := ih hthen hfs
    rw [Datasource.addColumns_call hdry htyped, Dialogue.run_call, hnext]
    simp only [Dialogue.run_bind, Dialogue.run_done, hrun, hstate, hview]
    exact ⟨rfl, rfl⟩

theorem run_addColumns_untyped (haccepts : (view s).Accepts table done)
    (hf : Datatype.parse? f.descriptor.datatype = none) :
    (Dialogue.run answer (ds.addColumns table (done ++ f :: rest)) s).1 =
      .error (.unknownDatatype table f.name f.descriptor.datatype) := by
  obtain ⟨hrun, -⟩ := h.run_addColumns_accepted hwilling hdry hready haccepts
  rw [Datasource.addColumns_append hdry, Dialogue.run_bind, hrun, Datasource.addColumns_unknown hf]
  rfl

theorem run_addColumns_taken (hreported : ReportsTaken view answer)
    (haccepts : (view s).Accepts table done) (hf : (Datatype.parse? f.descriptor.datatype).isSome)
    (htaken : ¬((view s).addFields table done).Free table f.name) (rest : List Field) :
    (Dialogue.run answer (ds.addColumns table (done ++ f :: rest)) s).1 =
      .error (.ddl table (f.addition ds.dialect table).sql
        (Database.duplicateColumn f.name).toError) := by
  obtain ⟨hrun, hview⟩ := h.run_addColumns_accepted hwilling hdry hready haccepts
  rw [Datasource.addColumns_append hdry, Dialogue.run_bind, hrun, Datasource.addColumns_call hdry hf]
  generalize (Dialogue.run answer (ds.addColumns table done) s).2 = added at hview ⊢
  have hthen := hready.addFields done
  rw [← hview] at htaken hthen
  obtain ⟨last, hlast, -⟩ := h.refused_duplicate hthen hf hreported htaken
  dsimp only
  rw [Dialogue.call_bind, Dialogue.run_call, hlast]
  rfl

end

variable (hd : (view s).dialect = ds.dialect) (hreports : ReportsColumns view answer)
  (hm : m.isExternal = false)

include hd hreports hm

/-- Outside a dry run the table is created and its columns are listed, and then columns are added. -/
theorem run_configureTable_eq :
    let created := (view s).createTable m.table m.primaryKey
    let adding : Dialogue (Except Error (List String)) :=
      ds.addColumns m.table (Datasource.lacking m.schema ⟨created.columns m.table⟩)
    ∃ create list listed, create.call = .execute (.createTable ds.dialect m.table m.primaryKey) ∧
      list.call = .query (.listColumns ds.dialect m.table) ∧ view listed = created ∧
      (ds.configureTable m).transcript answer s = create :: list :: adding.transcript answer listed ∧
      (ds.configureTable m).run answer s =
        ((Datasource.reportCreated (.createTable ds.dialect m.table m.primaryKey)
          ((adding.run answer listed).1.map fun l => { statements := l }), m),
          (adding.run answer listed).2) := by
  intro created adding
  obtain ⟨ack, next, hnext, hcreated⟩ := h.created hd hwilling m.table m.primaryKey
  have hsame : (view next).dialect = ds.dialect := by
    rw [hcreated, Database.dialect_createTable, hd]
  obtain ⟨list, listed, hlist, hview, htranscript, hrun⟩ :=
    h.reconcileColumns_listed hreports hsame m.table m.schema
  rw [hcreated] at hview htranscript hrun
  refine ⟨⟨.execute (.createTable ds.dialect m.table m.primaryKey), .ok ack⟩, list, listed, rfl, hlist,
    hview, ?_, ?_⟩ <;>
    rw [Datasource.configureTable_eq hm, Datasource.change_eq hdry, Dialogue.call_bind]
  · rw [Dialogue.transcript_call, hnext, Dialogue.done_bind, Dialogue.transcript_bind,
      Dialogue.transcript_done, List.append_nil, htranscript]
  · rw [Dialogue.run_call, hnext, Dialogue.done_bind, Dialogue.run_bind, Dialogue.run_done, hrun]

theorem run_configureTable_accepted
    (hlacking : Datasource.lacking m.schema
      ⟨((view s).createTable m.table m.primaryKey).columns m.table⟩ = fs)
    (hfs : ((view s).createTable m.table m.primaryKey).Accepts m.table fs) :
    ((ds.configureTable m).run answer s).1 =
        (.ok { statements := (Statement.createTable ds.dialect m.table m.primaryKey).sql ::
          fs.map fun f => (f.addition ds.dialect m.table).sql }, m) ∧
      view ((ds.configureTable m).run answer s).2 =
        ((view s).createTable m.table m.primaryKey).addFields m.table fs := by
  obtain ⟨-, -, listed, -, -, hview, -, hrun⟩ := h.run_configureTable_eq hwilling hdry hd hreports hm
  have hready : ((view s).createTable m.table m.primaryKey).Ready ds.dialect m.table :=
    Database.ready_createTable hd
  rw [← hview] at hfs hready ⊢
  obtain ⟨hadded, hstate⟩ := h.run_addColumns_accepted hwilling hdry hready hfs
  rw [hrun, hlacking, hadded]
  exact ⟨rfl, hstate⟩

theorem run_configureTable_taken (hreported : ReportsTaken view answer)
    (hlacking : Datasource.lacking m.schema
      ⟨((view s).createTable m.table m.primaryKey).columns m.table⟩ = done ++ f :: rest)
    (hdone : ((view s).createTable m.table m.primaryKey).Accepts m.table done)
    (hf : (Datatype.parse? f.descriptor.datatype).isSome)
    (htaken : ¬(((view s).createTable m.table m.primaryKey).addFields m.table done).Free m.table
      f.name) :
    ((ds.configureTable m).run answer s).1 =
      (.error (.ddl m.table (f.addition ds.dialect m.table).sql
        (Database.duplicateColumn f.name).toError), m) := by
  obtain ⟨-, -, listed, -, -, hview, -, hrun⟩ := h.run_configureTable_eq hwilling hdry hd hreports hm
  have hready : ((view s).createTable m.table m.primaryKey).Ready ds.dialect m.table :=
    Database.ready_createTable hd
  rw [← hview] at hdone htaken hready
  have htakes := h.run_addColumns_taken hwilling hdry hready hreported hdone hf htaken rest
  rw [hrun, hlacking, htakes]
  rfl

theorem run_configureTable_planned (hrule : (view s).rule = .exact) (hn : m.schema.names.Nodup)
    (htyped : ∀ f ∈ Datasource.lacking m.schema
      ⟨((view s).createTable m.table m.primaryKey).columns m.table⟩,
        (Datatype.parse? f.descriptor.datatype).isSome) :
    let created := (view s).createTable m.table m.primaryKey
    let fs := Datasource.lacking m.schema ⟨created.columns m.table⟩
    ((ds.configureTable m).run answer s).1 =
        (.ok { statements := (Statement.createTable ds.dialect m.table m.primaryKey).sql ::
          fs.map fun f => (f.addition ds.dialect m.table).sql }, m) ∧
      view ((ds.configureTable m).run answer s).2 = created.addFields m.table fs := by
  intro created fs
  have hcreated : created.rule = .exact := Database.rule_createTable.trans hrule
  exact h.run_configureTable_accepted hwilling hdry hd hreports hm rfl
    (Database.accepts_lacking hcreated Database.table?_createTable hn rfl htyped)

end SqlAdapter.Serves
