import SqlAdapter.Datasource.Configuration
import SqlAdapter.Proofs.Transcript

/-!
# Configuring, call by call

Configuring a table as a tree of calls: the table is created, its columns are listed, and the columns
of the fields that lack one are added. Each equation shows the next call and what follows each reply.
-/

set_option autoImplicit false

namespace SqlAdapter

/-- The column that a field becomes. A field without a datatype would have one without a type. -/
def Field.column (f : Field) : Column :=
  ⟨f.name, ((Datatype.parse? f.descriptor.datatype).map Datatype.columnType).getD ""⟩

theorem Field.column_eq {f : Field} {t : Datatype}
    (h : Datatype.parse? f.descriptor.datatype = some t) : f.column = ⟨f.name, t.columnType⟩ := by
  rw [column, h]
  rfl

def Field.addition (d : Dialect) (table : String) (f : Field) : Statement :=
  .addColumn d table f.column.name f.column.type

theorem Field.addition_eq {d : Dialect} {table : String} {f : Field} {t : Datatype}
    (h : Datatype.parse? f.descriptor.datatype = some t) :
    f.addition d table = .addColumn d table f.name t.columnType := by
  rw [addition, column_eq h]

@[simp] theorem Field.map_name_map_column (fs : List Field) :
    (fs.map Field.column).map Column.name = fs.map Field.name := by
  simp [Field.column]

namespace Datasource

variable {ds : Datasource} {table : String} {schema : Schema} {m : Model} {f : Field}
  {fs : List Field} {t : Datatype}

/-- The report of a configuration, from that of the reconciliation after the table was created. -/
def reportCreated (create : Statement) (r : Except Error Report) : Except Error Report :=
  r.map fun report => { report with statements := create.sql :: report.statements }

theorem reportCreated_eq_ok_iff {create : Statement} {r : Except Error (List String)}
    {texts : List String} :
    reportCreated create (r.map fun l => { statements := l }) =
      .ok { statements := create.sql :: texts } ↔ r = .ok texts := by
  cases r with
  | error e => simp [reportCreated, Except.map]
  | ok l => simp [reportCreated, Except.map]

theorem lacking_eq (schema : Schema) (live : LiveSchema) :
    lacking schema live = schema.fields.filter fun f => f.name ∉ live.names := by
  unfold lacking
  congr 1
  funext f
  rw [Bool.eq_iff_iff]
  simp [← LiveSchema.contains_iff]

theorem newColumn_eq (h : Datatype.parse? f.descriptor.datatype = some t) :
    newColumn table f = .ok ⟨table, f.column⟩ := by
  rw [newColumn, h, Field.column_eq h]

theorem addColumns_unknown (h : Datatype.parse? f.descriptor.datatype = none) :
    ds.addColumns table (f :: fs) =
      Dialogue.done (.error (.unknownDatatype table f.name f.descriptor.datatype)) := by
  unfold addColumns newColumn
  rw [h]
  rfl

theorem addColumns_cons (h : Datatype.parse? f.descriptor.datatype = some t) :
    ds.addColumns table (f :: fs) =
      Dialogue.bind (ds.change table (.addColumn ds.dialect table f.name t.columnType)) fun
        | .ok _ => Dialogue.bind (ds.addColumns table fs) fun r => .done (r.map fun l =>
            (Statement.addColumn ds.dialect table f.name t.columnType).sql :: l)
        | .error e => .done (.error e) := by
  have hc : newColumn table f = .ok ⟨table, ⟨f.name, t.columnType⟩⟩ := by
    unfold newColumn
    rw [h]
  rw [addColumns, hc]
  show (ds.change table _ >>= _ : Attempt _) = _
  rw [Attempt.bind_eq]
  congr 1
  funext r
  cases r with
  | error e => rfl
  | ok _ => exact Attempt.bind_pure_eq _ _

theorem tableInfo_eq :
    ds.tableInfo table = Dialogue.call (.query (.listColumns ds.dialect table)) fun r =>
      .done (r.bind (LiveSchema.ofRows table)) := by
  unfold tableInfo
  rw [Attempt.bind_eq]
  show Dialogue.call _ _ = _
  congr 1
  funext r
  cases r <;> rfl

theorem reconcileColumns_eq :
    ds.reconcileColumns table schema =
      Dialogue.call (.query (.listColumns ds.dialect table)) fun r =>
        match r.bind (LiveSchema.ofRows table) with
        | .error e => .done (.error e)
        | .ok live => Dialogue.bind (ds.addColumns table (lacking schema live)) fun r =>
            .done (r.map fun l => { statements := l }) := by
  unfold reconcileColumns
  rw [Attempt.bind_eq, tableInfo_eq, Dialogue.call_bind]
  congr 1
  funext r
  rw [Dialogue.done_bind]
  cases r.bind (LiveSchema.ofRows table) with
  | error e => rfl
  | ok live => exact Attempt.bind_pure_eq _ _

theorem configureTable_eq (hm : m.isExternal = false) :
    ds.configureTable m =
      Dialogue.bind (ds.change m.table (.createTable ds.dialect m.table m.primaryKey)) fun
        | .ok _ => Dialogue.bind (ds.reconcileColumns m.table m.schema) fun r =>
            .done (reportCreated (.createTable ds.dialect m.table m.primaryKey) r, m)
        | .error e => .done (.error e, m) := by
  unfold configureTable ensureTable
  simp only [hm, Bool.false_eq_true, if_false, Attempt.bind_pure_eq, ExceptT.run, Dialogue.bind_eq]
  rw [Attempt.bind_eq, Dialogue.bind_assoc, Dialogue.bind_assoc]
  congr 1
  funext r
  cases r with
  | error e => rfl
  | ok _ => exact Dialogue.bind_assoc _ _ _

theorem loadExternalSchema_eq :
    ds.loadExternalSchema m =
      Dialogue.call (.query (.listColumns ds.dialect m.table)) fun r =>
        match r.bind (LiveSchema.ofRows m.table) with
        | .error e => .done (.error e, m)
        | .ok live => .done (.ok (ds.derivedFields live), declare m (ds.derivedFields live)) := by
  unfold loadExternalSchema
  rw [tableInfo_eq]
  show Dialogue.call _ _ = _
  congr 1
  funext r
  show Dialogue.bind (.done (r.bind (LiveSchema.ofRows m.table))) _ = _
  cases r.bind (LiveSchema.ofRows m.table) <;> rfl

theorem configureTable_external (hm : m.isExternal = true) :
    ds.configureTable m = Dialogue.bind (ds.loadExternalSchema m) fun r =>
      .done (r.1.map fun derived => { derived := derived }, r.2) := by
  unfold configureTable
  rw [if_pos hm]
  rfl

theorem change_eq {s : Statement} (h : ds.dryRun = false) :
    ds.change table s = Dialogue.call (.execute s) fun
      | .ok _ => .done (.ok ())
      | .error e => .done (.error (.ddl table s.sql e)) := by
  unfold change
  rw [h]
  show Dialogue.call _ _ = Dialogue.call _ _
  rfl

theorem change_dry {s : Statement} (h : ds.dryRun = true) :
    ds.change table s = Dialogue.done (.ok ()) := by
  rw [change, if_pos h]
  rfl

/-! ## Dry runs -/

/-- The texts of the statements that would add the columns of some fields. -/
def planTexts (d : Dialect) (table : String) (fs : List Field) : Except Error (List String) :=
  (fs.mapM (newColumn table)).map fun ns => ns.map fun n => (n.statement d).sql

theorem planTexts_cons {d : Dialect} :
    planTexts d table (f :: fs) = (newColumn table f).bind fun n =>
      (planTexts d table fs).map fun l => (n.statement d).sql :: l := by
  unfold planTexts
  rw [List.mapM_cons]
  cases newColumn table f with
  | error e => rfl
  | ok n => cases fs.mapM (newColumn table) <;> rfl

/-- Columns can be planned exactly if every field has a datatype, and the plan has one for each. -/
theorem planTexts_eq_ok_iff {d : Dialect} {texts : List String} :
    planTexts d table fs = .ok texts ↔
      (∀ f ∈ fs, (Datatype.parse? f.descriptor.datatype).isSome) ∧
        texts = fs.map fun f => (f.addition d table).sql := by
  induction fs generalizing texts with
  | nil =>
    have hnil : planTexts d table [] = .ok [] := rfl
    rw [hnil, Except.ok.injEq]
    constructor
    · rintro rfl
      exact ⟨by simp, rfl⟩
    · rintro ⟨-, rfl⟩
      rfl
  | cons f fs ih =>
    rw [planTexts_cons, List.forall_mem_cons]
    cases ht : Datatype.parse? f.descriptor.datatype with
    | none => simp [newColumn, ht, Except.bind]
    | some t =>
      rw [newColumn_eq ht]
      constructor
      · intro h
        cases hfs : planTexts d table fs with
        | error e => simp [Except.bind, Except.map, hfs] at h
        | ok l =>
          obtain ⟨htyped, rfl⟩ := ih.1 hfs
          simp only [Except.bind, Except.map, hfs, Except.ok.injEq] at h
          exact ⟨⟨rfl, htyped⟩, h.symm⟩
      · rintro ⟨⟨-, htyped⟩, rfl⟩
        rw [ih.2 ⟨htyped, rfl⟩]
        rfl

theorem addColumns_dry (h : ds.dryRun = true) :
    ds.addColumns table fs = Dialogue.done (planTexts ds.dialect table fs) := by
  induction fs with
  | nil => rfl
  | cons f fs ih =>
    rw [planTexts_cons]
    cases ht : Datatype.parse? f.descriptor.datatype with
    | none =>
      rw [addColumns_unknown ht, newColumn, ht]
      rfl
    | some t =>
      rw [addColumns_cons ht, change_dry h, ih, newColumn, ht]
      rfl

theorem configureTable_plan (hd : ds.dryRun = true) (hm : m.isExternal = false) :
    ds.configureTable m =
      Dialogue.call (.query (.listColumns ds.dialect m.table)) fun r =>
        match r.bind (LiveSchema.ofRows m.table) with
        | .error e => .done (.error e, m)
        | .ok live => .done (reportCreated (.createTable ds.dialect m.table m.primaryKey)
            ((planTexts ds.dialect m.table (lacking m.schema live)).map
              fun l => { statements := l }), m) := by
  rw [configureTable_eq hm, change_dry hd, reconcileColumns_eq]
  simp only [Dialogue.done_bind, Dialogue.call_bind]
  congr 1
  funext r
  cases r.bind (LiveSchema.ofRows m.table) with
  | error e => rfl
  | ok live =>
    simp only [addColumns_dry hd, Dialogue.done_bind]

theorem configureTable_dry (hd : ds.dryRun = true) (hm : m.isExternal = false)
    (htyped : ∀ f ∈ m.schema.fields, (Datatype.parse? f.descriptor.datatype).isSome) :
    ∃ next, ds.configureTable m =
        Dialogue.call (.query (.listColumns ds.dialect m.table)) next ∧
      ∀ rows live, LiveSchema.ofRows m.table rows = .ok live →
        ∃ report, next (.ok rows) = .done (.ok report, m) := by
  refine ⟨_, configureTable_plan hd hm, ?_⟩
  intro rows live hlive
  have hlacking : ∀ f ∈ lacking m.schema live, (Datatype.parse? f.descriptor.datatype).isSome :=
    fun f hf => htyped f (List.mem_filter.1 hf).1
  simp only [Except.bind, hlive]
  rw [planTexts_eq_ok_iff.2 ⟨hlacking, rfl⟩]
  exact ⟨_, rfl⟩

/-! ## How long it lasts -/

theorem callsAtMost_change (ds : Datasource) (table : String) (s : Statement) :
    Dialogue.CallsAtMost (ds.change table s) 1 := by
  cases h : ds.dryRun with
  | true =>
    rw [change_dry h]
    trivial
  | false =>
    rw [change_eq h]
    constructor
    · exact Nat.one_pos
    · intro r
      cases r <;> trivial

theorem callsAtMost_addColumns (ds : Datasource) (table : String) (fs : List Field) :
    Dialogue.CallsAtMost (ds.addColumns table fs) fs.length := by
  induction fs with
  | nil => trivial
  | cons f fs ih =>
    cases ht : Datatype.parse? f.descriptor.datatype with
    | none =>
      rw [addColumns_unknown ht]
      trivial
    | some t =>
      rw [addColumns_cons ht, List.length_cons, Nat.add_comm]
      apply (callsAtMost_change ds table _).bind
      intro r
      cases r with
      | error e => trivial
      | ok _ => exact ih.map _

theorem callsAtMost_reconcileColumns (ds : Datasource) (table : String) (schema : Schema) :
    Dialogue.CallsAtMost (ds.reconcileColumns table schema) (schema.fields.length + 1) := by
  rw [reconcileColumns_eq]
  constructor
  · exact Nat.succ_pos _
  · intro r
    dsimp only
    cases r.bind (LiveSchema.ofRows table) with
    | error e => trivial
    | ok live =>
      have hlacking : (lacking schema live).length ≤ schema.fields.length :=
        List.length_filter_le _ _
      exact ((callsAtMost_addColumns ds table _).mono hlacking).map _

/-- A client that configures the table of its own model ends after a call for each field and two
more. -/
theorem callsAtMost_configureTable (ds : Datasource) (hm : m.isExternal = false) :
    (ds.configureTable m).CallsAtMost (m.schema.fields.length + 2) := by
  have hn : m.schema.fields.length + 2 = 1 + (m.schema.fields.length + 1) := by omega
  rw [configureTable_eq hm, hn]
  apply (callsAtMost_change ds m.table _).bind
  intro r
  cases r with
  | error e => trivial
  | ok _ => exact (callsAtMost_reconcileColumns ds m.table m.schema).map _

end Datasource

end SqlAdapter
