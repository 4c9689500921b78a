import SqlAdapter.Proofs.Insertion
import SqlAdapter.Proofs.Operation
import SqlAdapter.Proofs.Reconciliation

/-!
# Plans

The columns that a table lacks can be planned from a listing of its columns, without sending anything. A
dry run reports the plan, and so does a run that is refused nothing: it sends what was planned. Where a
field has no datatype there is no plan, and the run has then sent what could be planned for the fields
before.
-/

set_option autoImplicit false

namespace SqlAdapter

/-- The report that all columns of a plan have been added. -/
def Report.ofPlan (d : Dialect) (plan : List NewColumn) : Report where
  statements := plan.map fun n => (n.statement d).sql

/-- The plan for a column that was added. -/
def AddedColumn.planned (table : String) (a : AddedColumn) : NewColumn :=
  ⟨table, a.field.name, a.type.columnType⟩

/-- The statements that a run sends for the fields that lack a column, if none of them is refused: those
of the plan, or without one those planned for the fields before the first without a datatype. -/
def SendsPlan (d : Dialect) (table : String) (fs : List Field) (sent : List Statement) :
    Except Error (List NewColumn) → Prop
  | .ok plan => sent = plan.map (NewColumn.statement d)
  | .error e => ∃ before f after plan, fs = before ++ f :: after ∧
      before.mapM (Datasource.newColumn table) = .ok plan ∧
      Datatype.parse? f.descriptor.datatype = none ∧
      e = .unknownDatatype table f.name f.descriptor.datatype ∧
      sent = plan.map (NewColumn.statement d)

section

variable {d : Dialect} {table : String} {schema : Schema} {fs : List Field}
  {added : List AddedColumn} {es : List Exchange} {result : Except Error (List String)}

theorem mapM_newColumn_append
    (h : ∀ a ∈ added, Datatype.parse? a.field.descriptor.datatype = some a.type) :
    (added.map AddedColumn.field ++ fs).mapM (Datasource.newColumn table) =
      (fs.mapM (Datasource.newColumn table)).map fun plan =>
        added.map (AddedColumn.planned table) ++ plan := by
  induction added with
  | nil =>
    show fs.mapM (Datasource.newColumn table) = _
    cases fs.mapM (Datasource.newColumn table) <;> rfl
  | cons a added ih =>
    rw [List.forall_mem_cons] at h
    have ha : Datasource.newColumn table a.field = .ok (a.planned table) := by
      rw [Datasource.newColumn, h.1]
      rfl
    rw [List.map_cons, List.cons_append, List.mapM_cons, ha, ih h.2]
    cases fs.mapM (Datasource.newColumn table) <;> rfl

/-- Adding columns in turn without a refusal carries out the plan as far as there is one. -/
theorem sendsPlan_of_addsInTurn (h : AddsInTurn d table fs es result)
    (hall : ∀ e ∈ es, e.acknowledged) :
    result = Datasource.planTexts d table fs ∧
      ∃ sent : List Statement, es.map Exchange.call = sent.map Call.execute ∧
        SendsPlan d table fs sent (fs.mapM (Datasource.newColumn table)) := by
  obtain ⟨added, rest, last, rfl, htyped, rfl, hend⟩ := h
  have hsent : (added.map (AddedColumn.exchange d table)).map Exchange.call =
      ((added.map (AddedColumn.planned table)).map (NewColumn.statement d)).map Call.execute := by
    rw [List.map_map, List.map_map, List.map_map]
    rfl
  have htexts : (added.map fun a => (a.statement d table).sql) =
      (Report.ofPlan d (added.map (AddedColumn.planned table))).statements := by
    rw [Report.ofPlan, List.map_map]
    rfl
  rw [Datasource.planTexts, mapM_newColumn_append htyped]
  cases hend with
  | complete =>
    refine ⟨?_, _, by rw [List.append_nil, hsent], ?_⟩
    · rw [htexts]
      simp [Except.map, pure, Except.pure, Report.ofPlan]
    · simp [Except.map, pure, Except.pure, SendsPlan]
  | @unknown f rest hf =>
    have hplan : (f :: rest).mapM (Datasource.newColumn table) =
        .error (.unknownDatatype table f.name f.descriptor.datatype) := by
      rw [List.mapM_cons, Datasource.newColumn, hf]
      rfl
    have hbefore : (added.map AddedColumn.field ++ []).mapM (Datasource.newColumn table) = _ :=
      mapM_newColumn_append htyped
    rw [List.append_nil] at hbefore
    rw [hplan]
    refine ⟨rfl, _, by rw [List.append_nil, hsent], ?_⟩
    exact ⟨_, f, rest, _, rfl, hbefore, hf, rfl, by simp⟩
  | refused hf =>
    have hlast := hall _ (List.mem_append_right _ List.mem_cons_self)
    cases hlast

variable {σ : Type} {answer : (c : Call) → σ → c.Reply × σ} {s : σ} {rows : List Record}
  {live : LiveSchema}

theorem run_reconcileColumns_dry (ds : Datasource) (hd : ds.dryRun = true)
    (hlisted : (answer (.query (.listColumns ds.dialect table)) s).1 = .ok rows)
    (hrows : LiveSchema.ofRows table rows = .ok live) :
    (Dialogue.run answer (ds.reconcileColumns table schema) s).1 =
      (Datasource.planColumns table schema live).map (Report.ofPlan ds.dialect) := by
  rw [Datasource.reconcileColumns_eq, Dialogue.run_call, hlisted]
  simp only [Except.bind, hrows, Datasource.addColumns_dry hd, Dialogue.done_bind, Dialogue.run_done]
  show _ = ((Datasource.lacking schema live).mapM (Datasource.newColumn table)).map _
  rw [Datasource.planTexts]
  cases (Datasource.lacking schema live).mapM (Datasource.newColumn table) <;> rfl

/-- A run that is refused nothing reports the plan and sends it. -/
theorem run_reconcileColumns_acknowledged (ds : Datasource) (hd : ds.dryRun = false)
    (hlisted : (answer (.query (.listColumns ds.dialect table)) s).1 = .ok rows)
    (hrows : LiveSchema.ofRows table rows = .ok live)
    (hall : ∀ e ∈ Dialogue.transcript answer (ds.reconcileColumns table schema) s, e.acknowledged) :
    (Dialogue.run answer (ds.reconcileColumns table schema) s).1 =
        (Datasource.planColumns table schema live).map (Report.ofPlan ds.dialect) ∧
      ∃ sent : List Statement,
        (Dialogue.transcript answer (ds.reconcileColumns table schema) s).map Exchange.call =
          .query (.listColumns ds.dialect table) :: sent.map Call.execute ∧
        SendsPlan ds.dialect table (schema.fields.filter fun f => f.name ∉ live.names) sent
          (Datasource.planColumns table schema live) := by
  have hyields := Dialogue.yields_run answer (ds.reconcileColumns table schema) s
  obtain ⟨reply, rest, hes, h⟩ := reconciles_of_yields ds hd hyields
  have hreply : reply = .ok rows := by
    rw [Datasource.reconcileColumns_eq, Dialogue.transcript_call, hlisted] at hes
    have hhead := (List.cons.inj hes).1
    exact (eq_of_heq (Exchange.mk.inj hhead).2).symm
  subst hreply
  simp only [Except.bind, hrows] at h
  obtain ⟨texts, hresult, hadds⟩ := h
  have hrest : ∀ e ∈ rest, e.acknowledged := by
    intro e he
    apply hall
    rw [hes]
    exact List.mem_cons_of_mem _ he
  obtain ⟨rfl, sent, hsent, hplan⟩ := sendsPlan_of_addsInTurn hadds hrest
  rw [← Datasource.lacking_eq] at hplan hresult ⊢
  refine ⟨?_, sent, ?_, hplan⟩
  · rw [hresult, Datasource.planTexts, Datasource.planColumns]
    cases (Datasource.lacking schema live).mapM (Datasource.newColumn table) <;> rfl
  · rw [hes, List.map_cons, hsent]

end

/-! ## What a dry run sends -/

namespace Operation

/-- The operations on the schema of a table, its own or that of a model. -/
def ConcernsSchema : Operation → Prop
  | ensureTable .. | reconcileColumns .. | configureTable _ | loadExternalSchema _ => True
  | insertRecord .. | selectRows .. => False

/-- The table that an operation is about. -/
def table : Operation → String
  | ensureTable table _ | reconcileColumns table _ | selectRows table _ => table
  | configureTable m | loadExternalSchema m | insertRecord m _ => m.table

variable {ds : Datasource} {table : String} {schema : Schema}

theorem asks_reconcileColumns_dry (hd : ds.dryRun = true) :
    Dialogue.Asks (· = .query (.listColumns ds.dialect table)) (ds.reconcileColumns table schema) := by
  simp only [Datasource.reconcileColumns_eq, Datasource.addColumns_dry hd]
  refine ⟨rfl, fun reply => ?_⟩
  dsimp only
  cases reply.bind (LiveSchema.ofRows table) <;> trivial

theorem asks_loadExternalSchema_lists (m : Model) :
    (ds.loadExternalSchema m).Asks (· = .query (.listColumns ds.dialect m.table)) := by
  rw [Datasource.loadExternalSchema_eq]
  refine ⟨rfl, fun reply => ?_⟩
  dsimp only
  cases reply.bind (LiveSchema.ofRows m.table) <;> trivial

theorem asks_dry (ds : Datasource) (hd : ds.dryRun = true) {op : Operation} (hop : op.ConcernsSchema) :
    (op.dialogue ds).Asks (· = .query (.listColumns ds.dialect op.table)) := by
  cases op with
  | ensureTable table key =>
    show Dialogue.Asks _ (ds.ensureTable table key)
    rw [Datasource.ensureTable, Datasource.change_dry hd]
    trivial
  | reconcileColumns table schema => exact asks_reconcileColumns_dry hd
  | configureTable m =>
    show (ds.configureTable m).Asks _
    cases hm : m.isExternal with
    | true =>
      rw [Datasource.configureTable_external hm]
      exact (asks_loadExternalSchema_lists m).bind fun _ => trivial
    | false =>
      rw [Datasource.configureTable_eq hm, Datasource.change_dry hd]
      exact (asks_reconcileColumns_dry hd).bind fun _ => trivial
  | loadExternalSchema m => exact asks_loadExternalSchema_lists m
  | insertRecord m r => exact hop.elim
  | selectRows table c => exact hop.elim

end Operation

/-- A dry run reports the plan for the columns that are listed. So does a run that is refused nothing, and
it sends the plan; where the plan fails, both fail alike, and the run has sent what was planned for the
fields before. No dry run sends anything but questions for columns, whatever it is answered. -/
theorem plan_rehearsal_and_run_agree (d : Dialect) :
    (∀ (table : String) (schema : Schema) (live : LiveSchema) (rows : List Record) (σ : Type)
        (answer : (c : Call) → σ → c.Reply × σ) (s : σ),
      (answer (.query (.listColumns d table)) s).1 = .ok rows → LiveSchema.ofRows table rows = .ok live →
      let plan := Datasource.planColumns table schema live
      let rehearsal : Dialogue _ := Datasource.reconcileColumns ⟨d, true⟩ table schema
      let run : Dialogue _ := Datasource.reconcileColumns ⟨d, false⟩ table schema
      (rehearsal.run answer s).1 = plan.map (Report.ofPlan d) ∧
        ((∀ e ∈ run.transcript answer s, e.acknowledged) →
          (run.run answer s).1 = plan.map (Report.ofPlan d) ∧
            ∃ sent : List Statement, (run.transcript answer s).map Exchange.call =
                .query (.listColumns d table) :: sent.map Call.execute ∧
              SendsPlan d table (schema.fields.filter fun f => f.name ∉ live.names) sent plan)) ∧
      ∀ op : Operation, op.ConcernsSchema →
        (op.dialogue ⟨d, true⟩).Asks (· = .query (.listColumns d op.table)) := by
  constructor
  · intro table schema live rows σ answer s hlisted hrows plan rehearsal run
    constructor
    · exact run_reconcileColumns_dry ⟨d, true⟩ rfl hlisted hrows
    · exact run_reconcileColumns_acknowledged ⟨d, false⟩ rfl hlisted hrows
  · intro op hop
    exact Operation.asks_dry ⟨d, true⟩ rfl hop

/-- The second of the fields that lack a column has no datatype: the first is planned and added, and
nothing is sent for the others. -/
theorem plan_rehearsal_and_run_agree_people :
    let schema : Schema := ⟨[⟨"_id", ⟨"blob", {}⟩⟩, ⟨"Age", ⟨"NUMBER", {}⟩⟩, ⟨"meta", ⟨"blob", {}⟩⟩,
      ⟨"born", ⟨"date", {}⟩⟩]⟩
    let row (name : String) : Record := .ofList [("name", .text name), ("type", .null)]
    let rows := [row "_id", row "age"]
    let live : LiveSchema := ⟨[⟨"_id", ""⟩, ⟨"age", ""⟩]⟩
    let run : Dialogue _ := Datasource.reconcileColumns ⟨.mysql, false⟩ "people" schema
    LiveSchema.ofRows "people" rows = .ok live ∧
      (∀ e ∈ run.transcript (counting rows) (), e.acknowledged) ∧
      (run.run (counting rows) ()).1 = .error (.unknownDatatype "people" "meta" "blob") ∧
      (∃ sent : List Statement, (run.transcript (counting rows) ()).map Exchange.call =
          .query (.listColumns .mysql "people") :: sent.map Call.execute ∧
        SendsPlan .mysql "people" (schema.fields.filter fun f => f.name ∉ live.names) sent
          (.error (.unknownDatatype "people" "meta" "blob"))) ∧
      Dialogue.Asks (· = .query (.listColumns .mysql "people"))
        (Operation.dialogue ⟨.mysql, true⟩ (.reconcileColumns "people" schema)) := by
  intro schema row rows live run
  have hrows : LiveSchema.ofRows "people" rows = .ok live := by rfl
  have hall : ∀ e ∈ run.transcript (counting rows) (), e.acknowledged := by decide +kernel
  obtain ⟨hruns, hdry⟩ := plan_rehearsal_and_run_agree .mysql
  obtain ⟨hresult, hsent⟩ := (hruns "people" schema live rows Unit (counting rows) () rfl hrows).2 hall
  exact ⟨hrows, hall, hresult.trans rfl, hsent, hdry (.reconcileColumns "people" schema) trivial⟩

end SqlAdapter
