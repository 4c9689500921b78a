import SqlAdapter.Proofs.Database.Acceptance

/-!
# Rehearsals

A dry run lists the columns of a table as they are, a run lists them after it has created the table. Both
find the same columns if the table is there. If it is not, the run finds a column for the key and the
dry run finds none, so the dry run plans a column for a key that the schema declares.
-/

set_option autoImplicit false

namespace SqlAdapter

namespace Datasource

theorem lacking_nil (schema : Schema) : lacking schema ⟨[]⟩ = schema.fields := by
  rw [lacking_eq]
  simp [LiveSchema.names]

theorem lacking_singleton (schema : Schema) (c : Column) :
    lacking schema ⟨[c]⟩ = schema.fields.filter fun f => f.name ≠ c.name := by
  rw [lacking_eq]
  simp [LiveSchema.names]

/-- The plans for a missing table and for one with a key alone agree if the key is not declared. -/
theorem planTexts_lacking_nil_iff {d : Dialect} {table : String} {schema : Schema} {key : Column}
    {texts : List String} (h : planTexts d table (lacking schema ⟨[key]⟩) = .ok texts) :
    planTexts d table (lacking schema ⟨[]⟩) = .ok texts ↔ key.name ∉ schema.names := by
  rw [lacking_singleton] at h
  rw [lacking_nil]
  constructor
  · intro hall hkey
    obtain ⟨f, hf, hname⟩ := List.mem_map.1 hkey
    obtain ⟨-, hsome⟩ := planTexts_eq_ok_iff.1 h
    obtain ⟨-, hevery⟩ := planTexts_eq_ok_iff.1 hall
    have hlength : (schema.fields.filter fun f => f.name ≠ key.name).length =
        schema.fields.length := by
      have htexts := congrArg List.length (hsome.symm.trans hevery)
      simpa using htexts
    -- the field of the key is planned once more
    have hkept : ∀ g ∈ schema.fields, decide (g.name ≠ key.name) = true :=
      List.length_filter_eq_length_iff.1 hlength
    exact of_decide_eq_true (hkept f hf) hname
  · intro hkey
    have hkept : (schema.fields.filter fun f => f.name ≠ key.name) = schema.fields := by
      rw [List.filter_eq_self]
      intro f hf
      rw [decide_eq_true_eq]
      rintro hname
      exact hkey (hname ▸ List.mem_map_of_mem hf)
    rwa [hkept] at h

end Datasource

namespace Serves

variable {σ : Type} {view : σ → Database} {answer : (c : Call) → σ → c.Reply × σ} {s : σ}
  {d : Dialect} {m : Model} {report : Report}

theorem run_configureTable_external (h : Serves view answer) (hd : (view s).dialect = d)
    (hm : m.isExternal = true) :
    Datasource.configureTable ⟨d, true⟩ m = Datasource.configureTable ⟨d, false⟩ m ∧
      view ((Datasource.configureTable ⟨d, true⟩ m).run answer s).2 = view s := by
  have hlisted := h.view_listColumns hd m.table
  rw [Datasource.configureTable_external hm, Datasource.configureTable_external hm,
    Datasource.loadExternalSchema_eq, Datasource.loadExternalSchema_eq]
  refine ⟨rfl, ?_⟩
  rw [Dialogue.run_bind, Dialogue.run_done, Dialogue.run_call]
  cases (answer (.query (.listColumns d m.table)) s).1.bind (LiveSchema.ofRows m.table) <;>
    exact hlisted

/-- Where a run succeeds, a dry run on the same database changes nothing. It gives the report of the run
exactly if the table is external, if it is there, or if its key is not declared. -/
theorem rehearsal_agrees_iff (h : Serves view answer) (hreports : ReportsColumns view answer)
    (hd : (view s).dialect = d)
    (hok : ((Datasource.configureTable ⟨d, false⟩ m).run answer s).1.1 = .ok report) :
    let rehearsal := (Datasource.configureTable ⟨d, true⟩ m).run answer s
    view rehearsal.2 = view s ∧ (rehearsal.1.1 = .ok report ↔
      m.isExternal = true ∨ ((view s).table? m.table).isSome ∨ m.primaryKey ∉ m.schema.names) := by
  intro rehearsal
  cases hm : m.isExternal with
  | true =>
    obtain ⟨hsame, hstate⟩ := h.run_configureTable_external hd hm
    refine ⟨hstate, ?_⟩
    rw [← hsame] at hok
    exact iff_of_true hok (.inl rfl)
  | false =>
    obtain ⟨texts, hplan, rfl, -⟩ := h.run_configureTable_ok rfl hd hreports hm hok
    have hdry : (Datasource.mk d true).dryRun = true := rfl
    obtain ⟨hrehearsal, hstate⟩ := h.run_configureTable_plan hreports hdry hd hm
    refine ⟨hstate, ?_⟩
    show ((Datasource.configureTable ⟨d, true⟩ m).run answer s).1.1 = _ ↔ _
    rw [hrehearsal, Datasource.reportCreated_eq_ok_iff]
    cases ht : (view s).table? m.table with
    | some t =>
      have hthere : ((view s).table? m.table).isSome := by rw [ht]; rfl
      rw [Database.createTable_eq_self hthere] at hplan
      exact iff_of_true hplan (.inr (.inl rfl))
    | none =>
      have hcolumns : (view s).columns m.table = [] := by rw [Database.columns, ht]; rfl
      rw [Database.columns_createTable, ht] at hplan
      rw [hcolumns]
      simpa using Datasource.planTexts_lacking_nil_iff hplan

end Serves

namespace Database

/-- A table that has the declared key already, with a column whose field has no datatype. -/
theorem rehearsal_agrees_iff_people :
    let schema : Schema :=
      ⟨[⟨"_id", ⟨"identifier", {}⟩⟩, ⟨"age", ⟨"years", {}⟩⟩, ⟨"name", ⟨"string", {}⟩⟩]⟩
    let m : Model := { table := "people", schema := schema }
    let db : Database := ⟨.mysql, .exact, [.fresh "people" [⟨"_id", "int"⟩, ⟨"age", ""⟩] none]⟩
    ∃ report, ((Datasource.configureTable ⟨.mysql, false⟩ m).run answer db).1.1 = .ok report ∧
      ((Datasource.configureTable ⟨.mysql, true⟩ m).run answer db).2 = db ∧
      ((Datasource.configureTable ⟨.mysql, true⟩ m).run answer db).1.1 = .ok report := by
  intro schema m db
  obtain ⟨report, h⟩ : ∃ report,
      ((Datasource.configureTable ⟨.mysql, false⟩ m).run answer db).1.1 = .ok report := by
    have hrun : ((Datasource.configureTable ⟨.mysql, false⟩ m).run answer db).1 = _ ∧ _ :=
      serves_answer.run_configureTable_planned willing_answer rfl rfl reportsColumns_answer rfl rfl
        (by decide) (by decide +kernel)
    exact ⟨_, congrArg Prod.fst hrun.1⟩
  have hthere : (db.table? m.table).isSome := rfl
  obtain ⟨hstate, hagrees⟩ := serves_answer.rehearsal_agrees_iff (d := .mysql) reportsColumns_answer rfl h
  exact ⟨report, h, hstate, hagrees.2 (.inr (.inl hthere))⟩

/-- A run finds the key of the table that it has created, and a dry run plans it. -/
theorem rehearsal_plans_declared_key :
    let m : Model := { table := "people", schema := ⟨[⟨"_id", ⟨"string", {}⟩⟩]⟩ }
    ((Datasource.configureTable ⟨.sqlite, false⟩ m).run answer .sqlite).1.1 = .ok { statements :=
      ["CREATE TABLE IF NOT EXISTS \x60people\x60 (\x60_id\x60 VARCHAR(24) PRIMARY KEY)"] } ∧
    ((Datasource.configureTable ⟨.sqlite, true⟩ m).run answer .sqlite).1.1 = .ok { statements :=
      ["CREATE TABLE IF NOT EXISTS \x60people\x60 (\x60_id\x60 VARCHAR(24) PRIMARY KEY)",
        "ALTER TABLE \x60people\x60 ADD COLUMN \x60_id\x60 TEXT"] } := by
  intro m
  have hcreate : (Statement.createTable .sqlite "people" "_id").sql =
      "CREATE TABLE IF NOT EXISTS \x60people\x60 (\x60_id\x60 VARCHAR(24) PRIMARY KEY)" := by
    decide +kernel
  have hadd : (Statement.addColumn .sqlite "people" "_id" "TEXT").sql =
      "ALTER TABLE \x60people\x60 ADD COLUMN \x60_id\x60 TEXT" := by
    decide +kernel
  have htable : sqlite.table? m.table = none := by decide +kernel
  constructor
  · have hcolumns : (sqlite.createTable m.table m.primaryKey).columns m.table =
        [⟨"_id", "VARCHAR(24)"⟩] := by
      rw [columns_createTable, htable]
      rfl
    have hlacking : Datasource.lacking m.schema
        ⟨(sqlite.createTable m.table m.primaryKey).columns m.table⟩ = [] := by
      rw [hcolumns]
      rfl
    have hrun : ((Datasource.configureTable ⟨.sqlite, false⟩ m).run answer .sqlite).1 = _ ∧ _ :=
      serves_answer.run_configureTable_accepted willing_answer rfl rfl reportsColumns_answer rfl
        hlacking trivial
    rw [hrun.1, ← hcreate]
    rfl
  · have hcolumns : sqlite.columns m.table = [] := by
      rw [columns, htable]
      rfl
    have hrun : ((Datasource.configureTable ⟨.sqlite, true⟩ m).run answer .sqlite).1 = _ ∧ _ :=
      serves_answer.run_configureTable_plan reportsColumns_answer rfl rfl rfl
    rw [hrun.1, hcolumns, Datasource.lacking_nil, ← hcreate, ← hadd]
    rfl

end Database

end SqlAdapter
