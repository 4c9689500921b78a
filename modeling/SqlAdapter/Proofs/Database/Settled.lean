import SqlAdapter.Proofs.Database.Acceptance

/-!
# Settled tables

A table is settled for a model when it is there and has a column for every declared field. A run that
succeeds leaves its table settled, and a settled table stays as it is however often it is configured or
reconciled again.
-/

set_option autoImplicit false

namespace SqlAdapter

/-- A run for the table of a model. -/
inductive Pass where
  | configure
  | reconcile

namespace Pass

variable (ds : Datasource) (m : Model)

def dialogue : Pass → Dialogue (Except Error Report)
  | configure => Dialogue.bind (ds.configureTable m) fun r => .done r.1
  | reconcile => ds.reconcileColumns m.table m.schema

/-- Runs one after the other, each with its result. -/
def dialogues : List Pass → Dialogue (List (Except Error Report))
  | [] => .done []
  | p :: ps => Dialogue.bind (p.dialogue ds m) fun r =>
      Dialogue.bind (dialogues ps) fun rs => .done (r :: rs)

/-- What a run sends that adds no column. -/
def calls : Pass → List Call
  | configure => [.execute (.createTable ds.dialect m.table m.primaryKey),
      .query (.listColumns ds.dialect m.table)]
  | reconcile => [.query (.listColumns ds.dialect m.table)]

/-- What a run reports that adds no column. -/
def report : Pass → Report
  | configure => { statements := [(Statement.createTable ds.dialect m.table m.primaryKey).sql] }
  | reconcile => {}

end Pass

namespace Database

variable {m : Model} {db : Database}

structure Settled (db : Database) (m : Model) : Prop where
  there : (db.table? m.table).isSome
  complete : ∀ f ∈ m.schema.fields, f.name ∈ (db.columns m.table).map Column.name

theorem Settled.lacking (h : db.Settled m) :
    Datasource.lacking m.schema ⟨db.columns m.table⟩ = [] := by
  rw [Datasource.lacking_eq, List.filter_eq_nil_iff]
  intro f hf
  simpa [LiveSchema.names] using h.complete f hf

theorem settled_addFields (hthere : (db.table? m.table).isSome) :
    (db.addFields m.table (Datasource.lacking m.schema ⟨db.columns m.table⟩)).Settled m where
  there := by rwa [table?_addFields]
  complete := by
    intro f hf
    rw [columns_addFields hthere, List.map_append, Field.map_name_map_column, Datasource.lacking_eq]
    by_cases hlive : f.name ∈ (db.columns m.table).map Column.name
    · exact List.mem_append_left _ hlive
    · apply List.mem_append_right
      apply List.mem_map_of_mem
      exact List.mem_filter.2 ⟨hf, decide_eq_true hlive⟩

end Database

namespace Serves

variable {σ : Type} {view : σ → Database} {answer : (c : Call) → σ → c.Reply × σ} {s : σ}
  {ds : Datasource} {m : Model} (h : Serves view answer) (hreports : ReportsColumns view answer)

section

variable (hd : (view s).dialect = ds.dialect) (hsettled : (view s).Settled m)
  (hagain : Recreates view answer) (hdry : ds.dryRun = false) (hm : m.isExternal = false)

include h hreports hd hsettled hagain hdry hm

theorem pass_settled (p : Pass) :
    ((p.dialogue ds m).run answer s).1 = .ok (p.report ds m) ∧
      view ((p.dialogue ds m).run answer s).2 = view s ∧
      ((p.dialogue ds m).transcript answer s).map Exchange.call = p.calls ds m := by
  cases p with
  | reconcile => exact h.reconcileColumns_nothing hreports hd hsettled.lacking
  | configure =>
    obtain ⟨ack, next, hnext, hview⟩ :=
      h.recreated hd hagain m.primaryKey hsettled.there
    rw [← hview] at hd hsettled
    obtain ⟨hrun, hstate, hcalls⟩ := h.reconcileColumns_nothing hreports hd hsettled.lacking
    rw [Pass.dialogue, Datasource.configureTable_eq hm, Datasource.change_eq hdry, Dialogue.call_bind,
      Dialogue.call_bind, Dialogue.run_call, Dialogue.transcript_call, hnext]
    simp only [Dialogue.done_bind, Dialogue.bind_assoc, Dialogue.run_bind, Dialogue.transcript_bind,
      Dialogue.run_done, Dialogue.transcript_done, List.append_nil, List.map_cons, hrun, hcalls]
    exact ⟨rfl, hstate.trans hview, rfl⟩

theorem passes_settled (ps : List Pass) :
    ((Pass.dialogues ds m ps).run answer s).1 = ps.map (fun p => .ok (p.report ds m)) ∧
      view ((Pass.dialogues ds m ps).run answer s).2 = view s ∧
      ((Pass.dialogues ds m ps).transcript answer s).map Exchange.call =
        ps.flatMap (Pass.calls ds m) := by
  induction ps generalizing s with
  | nil => exact ⟨rfl, rfl, rfl⟩
  | cons p ps ih =>
    obtain ⟨hrun, hview, hcalls⟩ := h.pass_settled hreports hd hsettled hagain hdry hm p
    rw [← hview] at hd hsettled
    obtain ⟨hruns, hviews, hrest⟩ := ih hd hsettled
    rw [Pass.dialogues, Dialogue.run_bind, Dialogue.transcript_bind, Dialogue.run_bind,
      Dialogue.transcript_bind, hrun, hruns, List.map_append, List.map_append, hcalls, hrest]
    exact ⟨rfl, hviews.trans hview, by simp⟩

end

/-- A run that succeeds leaves the columns as they were, or the key alone in a new table, followed by one
for each declared field that was missing. Every further run succeeds and sends nothing that changes the
database. -/
theorem configureTable_settles {report : Report} (h : Serves view answer)
    (hreports : ReportsColumns view answer) (hagain : Recreates view answer) (hdry : ds.dryRun = false)
    (hd : (view s).dialect = ds.dialect) (hm : m.isExternal = false)
    (hok : ((ds.configureTable m).run answer s).1.1 = .ok report) :
    let former :=
      (((view s).table? m.table).map Table.columns).getD [⟨m.primaryKey, ds.dialect.keyType⟩]
    let missing := m.schema.fields.filter fun f => f.name ∉ former.map Column.name
    let last := ((ds.configureTable m).run answer s).2
    (view last).columns m.table = former ++ missing.map Field.column ∧
    (∀ f ∈ missing, ∃ t, Datatype.parse? f.descriptor.datatype = some t ∧
      f.column = ⟨f.name, t.columnType⟩) ∧
    (∀ f ∈ m.schema.fields, f.name ∈ ((view last).columns m.table).map Column.name) ∧
    ∀ passes : List Pass,
      let further := (Pass.dialogues ds m passes).run answer last
      further.1 = passes.map (fun p => .ok (p.report ds m)) ∧ view further.2 = view last ∧
      ((Pass.dialogues ds m passes).transcript answer last).map Exchange.call =
        passes.flatMap (Pass.calls ds m) := by
  intro former missing last
  obtain ⟨texts, hplan, -, hadded⟩ := h.run_configureTable_ok hdry hd hreports hm hok
  have hformer : ((view s).createTable m.table m.primaryKey).columns m.table = former := by
    rw [Database.columns_createTable, hd]
  have hmissing : Datasource.lacking m.schema ⟨former⟩ = missing := Datasource.lacking_eq _ _
  have hlast : view last = _ := hadded
  have hsettled : (view last).Settled m := by
    rw [hlast]
    exact Database.settled_addFields Database.table?_createTable
  have hcolumns : (view last).columns m.table = former ++ missing.map Field.column := by
    rw [hlast, Database.columns_addFields Database.table?_createTable, hformer, hmissing]
  have hsame : (view last).dialect = ds.dialect := by
    rw [hlast, Database.dialect_addFields, Database.dialect_createTable, hd]
  rw [hformer, hmissing] at hplan
  refine ⟨hcolumns, ?_, hsettled.complete, h.passes_settled hreports hsame hsettled hagain hdry hm⟩
  intro f hf
  obtain ⟨t, ht⟩ := Option.isSome_iff_exists.1 ((Datasource.planTexts_eq_ok_iff.1 hplan).1 f hf)
  exact ⟨t, ht, Field.column_eq ht⟩

end Serves

namespace Database

/-- A declared field is live in another case than its own, and one is live without a datatype. -/
theorem configureTable_settles_people :
    let schema : Schema :=
      ⟨[⟨"name", ⟨"String", {}⟩⟩, ⟨"age", ⟨"years", {}⟩⟩, ⟨"born", ⟨"date", {}⟩⟩]⟩
    let m : Model := { table := "people", schema := schema }
    let ds : Datasource := ⟨.generic, false⟩
    let db : Database :=
      ⟨.generic, .exact, [.fresh "people" [⟨"Name", "text"⟩, ⟨"age", ""⟩] (some "Name")]⟩
    (∃ report, ((ds.configureTable m).run answer db).1.1 = .ok report) ∧
      ((ds.configureTable m).run answer db).2.columns m.table =
        [⟨"Name", "text"⟩, ⟨"age", ""⟩, ⟨"name", "TEXT"⟩, ⟨"born", "DATE"⟩] ∧
      ((Pass.dialogues ds m [.reconcile, .configure]).run answer
          ((ds.configureTable m).run answer db).2).1 =
        [.ok {}, .ok { statements :=
          ["CREATE TABLE IF NOT EXISTS \"people\" (\"_id\" VARCHAR(24) " ++ "PRIMARY KEY)"] }] ∧
      ((Pass.dialogues ds m [.reconcile, .configure]).run answer
          ((ds.configureTable m).run answer db).2).2 = ((ds.configureTable m).run answer db).2 := by
  intro schema m ds db
  obtain ⟨report, h⟩ : ∃ report, ((ds.configureTable m).run answer db).1.1 = .ok report := by
    have hrun : ((ds.configureTable m).run answer db).1 = _ ∧ _ :=
      serves_answer.run_configureTable_planned willing_answer rfl rfl reportsColumns_answer rfl rfl
        (by decide) (by decide +kernel)
    exact ⟨_, congrArg Prod.fst hrun.1⟩
  obtain ⟨hcolumns, -, -, hpasses⟩ := serves_answer.configureTable_settles reportsColumns_answer
    willing_answer.recreates rfl rfl rfl h
  obtain ⟨hreports, hstate, -⟩ := hpasses [.reconcile, .configure]
  have hcreate : (Statement.createTable ds.dialect m.table m.primaryKey).sql =
      "CREATE TABLE IF NOT EXISTS \"people\" (\"_id\" VARCHAR(24) " ++ "PRIMARY KEY)" := by
    decide +kernel
  refine ⟨⟨report, h⟩, hcolumns.trans ?_, hreports.trans ?_, hstate⟩
  · decide +kernel
  · rw [← hcreate]
    rfl

end Database

end SqlAdapter
