import SqlAdapter.Proofs.Database.Acceptance

/-!
# Colliding names

A field lacks a column when no column has exactly its name, while SQLite takes names for the same that
differ in the case of ASCII letters alone. A client that configures a table alone is refused a duplicate
column only where the two rules part: at the first lacking field whose name is, but for case, that of a
column or of an earlier lacking field. A server that refuses nothing else refuses it there.
-/

set_option autoImplicit false

namespace SqlAdapter

/-- The name of some field is, but for the case of ASCII letters, one of the given names or that of a field
before it. -/
def Collides (names : List String) (fs : List Field) : Prop :=
  ∃ before f after, fs = before ++ f :: after ∧
    ∃ n ∈ names ++ before.map Field.name, Text.sameIgnoringCase n f.name

theorem not_collides_nil {names : List String} : ¬Collides names [] := by
  rintro ⟨before, f, after, hsplit, -⟩
  simp at hsplit

theorem collides_cons {names : List String} {f : Field} {fs : List Field} :
    Collides names (f :: fs) ↔
      (∃ n ∈ names, Text.sameIgnoringCase n f.name) ∨ Collides (names ++ [f.name]) fs := by
  constructor
  · rintro ⟨before, g, after, hsplit, hsame⟩
    cases before with
    | nil =>
      obtain ⟨rfl, -⟩ := List.cons.inj hsplit
      left
      simpa using hsame
    | cons b before =>
      obtain ⟨rfl, hrest⟩ := List.cons.inj hsplit
      exact .inr ⟨before, g, after, hrest, by simpa using hsame⟩
  · rintro (hsame | ⟨before, g, after, rfl, hsame⟩)
    · exact ⟨[], f, fs, rfl, by simpa using hsame⟩
    · exact ⟨f :: before, g, after, rfl, by simpa using hsame⟩

instance decidableCollides (names : List String) (fs : List Field) : Decidable (Collides names fs) :=
  match fs with
  | [] => isFalse not_collides_nil
  | f :: fs =>
    have := decidableCollides (names ++ [f.name]) fs
    decidable_of_iff _ collides_cons.symm

namespace Database

variable {db : Database} {table : String} {fs : List Field}

theorem not_free_addFields_iff {done : List Field} {name : String} (hrule : db.rule = .ignoringCase)
    (ht : (db.table? table).isSome) :
    ¬(db.addFields table done).Free table name ↔
      ∃ n ∈ (db.columns table).map Column.name ++ done.map Field.name,
        Text.sameIgnoringCase n name := by
  rw [free_addFields ht, hrule]
  simp only [Free, hrule, NameRule.same]
  grind

theorem accepts_iff_not_collides (hrule : db.rule = .ignoringCase) (ht : (db.table? table).isSome)
    (htyped : ∀ f ∈ fs, (Datatype.parse? f.descriptor.datatype).isSome) :
    db.Accepts table fs ↔ ¬Collides ((db.columns table).map Column.name) fs := by
  constructor
  · rintro h ⟨before, f, after, rfl, hcollides⟩
    obtain ⟨-, -, hfree, -⟩ := accepts_append.1 h
    exact (not_free_addFields_iff hrule ht).2 hcollides hfree
  · intro h
    rcases accepts_or_stops db table fs with hall | ⟨done, f, rest, rfl, -, hstop⟩
    · exact hall
    · have hf := htyped f (by simp)
      rcases hstop with hnone | ⟨-, htaken⟩
      · rw [hnone] at hf
        cases hf
      · exact absurd ⟨done, f, rest, rfl, (not_free_addFields_iff hrule ht).1 htaken⟩ h

end Database

namespace Serves

variable {σ : Type} {view : σ → Database} {answer : (c : Call) → σ → c.Reply × σ} {s : σ}
  {ds : Datasource} {m : Model} {table : String} {fs : List Field} {e : Error}

/-- Where columns cannot be added, those of the first fields have been, and the next field has no datatype
or is refused. -/
theorem run_addColumns_error (h : Serves view answer) (hdry : ds.dryRun = false)
    (hd : (view s).dialect = ds.dialect)
    (he : (Dialogue.run answer (ds.addColumns table fs) s).1 = .error e) :
    ∃ done f rest, fs = done ++ f :: rest ∧ (Datatype.parse? f.descriptor.datatype = none ∨
      (Datatype.parse? f.descriptor.datatype).isSome ∧ ∃ s' source,
        view s' = (view s).addFields table done ∧
        (answer (.execute (f.addition ds.dialect table)) s').1 = .error source ∧
        e = .ddl table (f.addition ds.dialect table).sql source) := by
  induction fs generalizing s with
  | nil => cases he
  | cons f fs ih =>
    cases ht : Datatype.parse? f.descriptor.datatype with
    | none => exact ⟨[], f, fs, rfl, .inl ht⟩
    | some t =>
      have hf : (Datatype.parse? f.descriptor.datatype).isSome := by rw [ht]; rfl
      rw [Datasource.addColumns_call hdry hf, Dialogue.run_call] at he
      obtain ⟨⟨reply, next⟩, hnext⟩ :
          ∃ r, answer (.execute (f.addition ds.dialect table)) s = r := ⟨_, rfl⟩
      rw [hnext] at he
      rcases h.of_addition hd hf hnext with ⟨⟨source, rfl⟩, -⟩ | ⟨⟨ack, rfl⟩, hview⟩
      · cases he
        exact ⟨[], f, fs, rfl, .inr ⟨hf, s, source, rfl, by rw [hnext], rfl⟩⟩
      · have hsame : (view next).dialect = ds.dialect := by rw [hview]; exact hd
        simp only [Dialogue.run_bind, Dialogue.run_done] at he
        cases hfs : (Dialogue.run answer (ds.addColumns table fs) next).1 with
        | ok l =>
          rw [hfs] at he
          cases he
        | error e' =>
          rw [hfs] at he
          cases he
          obtain ⟨done, g, rest, rfl, hnone | ⟨hg, s', source, hview', hrefused, rfl⟩⟩ := ih hsame hfs
          · exact ⟨f :: done, g, rest, rfl, .inl hnone⟩
          · rw [hview, ← Database.addFields_cons] at hview'
            exact ⟨f :: done, g, rest, rfl, .inr ⟨hg, s', source, hview', hrefused, rfl⟩⟩

/-- Where a table cannot be configured, creating it was refused, or a column of the created table could not
be added. -/
theorem run_configureTable_error (h : Serves view answer) (hreports : ReportsColumns view answer)
    (hdry : ds.dryRun = false) (hd : (view s).dialect = ds.dialect) (hm : m.isExternal = false)
    (he : ((ds.configureTable m).run answer s).1.1 = .error e) :
    let create := Statement.createTable ds.dialect m.table m.primaryKey
    let created := (view s).createTable m.table m.primaryKey
    (∃ source, (answer (.execute create) s).1 = .error source ∧ e = .ddl m.table create.sql source) ∨
      ∃ listed, view listed = created ∧ (Dialogue.run answer (ds.addColumns m.table
        (Datasource.lacking m.schema ⟨created.columns m.table⟩)) listed).1 = .error e := by
  intro create created
  obtain ⟨⟨reply, next⟩, hnext⟩ : ∃ r, answer (.execute create) s = r := ⟨_, rfl⟩
  rw [Datasource.configureTable_eq hm, Datasource.change_eq hdry, Dialogue.call_bind,
    Dialogue.run_call, hnext] at he
  rcases h.of_createTable hd hnext with ⟨⟨source, rfl⟩, -⟩ | ⟨⟨ack, rfl⟩, hcreated⟩
  · cases he
    exact .inl ⟨source, by rw [hnext], rfl⟩
  · have hsame : (view next).dialect = ds.dialect := by
      rw [hcreated, Database.dialect_createTable, hd]
    obtain ⟨-, listed, -, hview, -, hrun⟩ :=
      h.reconcileColumns_listed hreports hsame m.table m.schema
    rw [hcreated] at hview hrun
    rw [Dialogue.done_bind, Dialogue.run_bind, Dialogue.run_done, hrun] at he
    refine .inr ⟨listed, hview, ?_⟩
    cases hadded : (Dialogue.run answer (ds.addColumns m.table
        (Datasource.lacking m.schema ⟨created.columns m.table⟩)) listed).1 with
    | ok l =>
      rw [hadded] at he
      cases he
    | error e' =>
      rw [hadded] at he
      rw [← Except.error.inj he]

section

variable (h : Serves view answer) (hreports : ReportsColumns view answer) (hdry : ds.dryRun = false)
  (hd : (view s).dialect = ds.dialect) (hrule : (view s).rule = .ignoringCase)
  (hm : m.isExternal = false)
  (htyped : ∀ f ∈ m.schema.fields, (Datatype.parse? f.descriptor.datatype).isSome)
  {created : Database} (hcreated : (view s).createTable m.table m.primaryKey = created)

include h hreports hdry hd hrule hm htyped hcreated

theorem collides_of_refused (hduplicates : DuplicatesOnly view answer) {statement name : String}
    (hrefused : ((ds.configureTable m).run answer s).1.1 =
      .error (.ddl m.table statement (Database.duplicateColumn name).toError)) :
    Collides ((created.columns m.table).map Column.name)
      (Datasource.lacking m.schema ⟨created.columns m.table⟩) := by
  subst hcreated
  have hignoring : ((view s).createTable m.table m.primaryKey).rule = .ignoringCase := by
    rw [Database.rule_createTable, hrule]
  rcases h.run_configureTable_error hreports hdry hd hm hrefused with
    ⟨source, hcreate, he⟩ | ⟨listed, hview, hadded⟩
  · cases he
    rw [← hd] at hcreate
    exact absurd hcreate (hduplicates.creates s m.table m.primaryKey name)
  · have hsame : (view listed).dialect = ds.dialect := by
      rw [hview, Database.dialect_createTable, hd]
    obtain ⟨done, f, rest, hstop, hcase⟩ := h.run_addColumns_error hdry hsame hadded
    have hmem : f ∈ done ++ f :: rest := List.mem_append_right done List.mem_cons_self
    rw [← hstop] at hmem
    obtain ⟨t, ht⟩ := Option.isSome_iff_exists.1 (htyped f (List.mem_filter.1 hmem).1)
    rcases hcase with hnone | ⟨-, s', source, hview', hcolumn, he⟩
    · rw [hnone] at ht
      cases ht
    · cases he
      rw [hview] at hview'
      refine ⟨done, f, rest, hstop,
        (Database.not_free_addFields_iff hignoring Database.table?_createTable).1 ?_⟩
      rw [← hview']
      intro hfree
      have hready : (view s').Ready ds.dialect m.table := by
        rw [hview']
        exact (Database.ready_createTable hd).addFields done
      rw [Field.addition_eq ht, ← hready.dialect] at hcolumn
      exact hduplicates.adds s' m.table f.name name t hready.there hfree hcolumn

theorem refused_of_collides (hwilling : Willing view answer) (hreported : ReportsTaken view answer)
    (hcollides : Collides ((created.columns m.table).map Column.name)
      (Datasource.lacking m.schema ⟨created.columns m.table⟩)) :
    ∃ statement name, ((ds.configureTable m).run answer s).1.1 =
      .error (.ddl m.table statement (Database.duplicateColumn name).toError) := by
  have htypes : ∀ f ∈ Datasource.lacking m.schema ⟨created.columns m.table⟩,
      (Datatype.parse? f.descriptor.datatype).isSome :=
    fun f hf => htyped f (List.mem_filter.1 hf).1
  rcases Database.accepts_or_stops created m.table
      (Datasource.lacking m.schema ⟨created.columns m.table⟩) with
    hall | ⟨done, f, rest, hstop, hdone, hnone | ⟨hf, htaken⟩⟩
  · subst hcreated
    have hignoring : ((view s).createTable m.table m.primaryKey).rule = .ignoringCase := by
      rw [Database.rule_createTable, hrule]
    have haccepts := Database.accepts_iff_not_collides hignoring Database.table?_createTable htypes
    exact absurd hcollides (haccepts.1 hall)
  · have hmem : f ∈ done ++ f :: rest := List.mem_append_right done List.mem_cons_self
    have hf := htypes f (hstop ▸ hmem)
    rw [hnone] at hf
    cases hf
  · subst hcreated
    have hrun := h.run_configureTable_taken hwilling hdry hd hreports hm hreported hstop hdone hf htaken
    exact ⟨_, _, congrArg Prod.fst hrun⟩

end

/-- Where names that differ in case alone are the same, a client that configures a table alone is refused
a duplicate column only if the name of a lacking field collides with that of a column of the table, of its
key if it is created, or of a lacking field before it. A server that refuses nothing else refuses one
there. -/
theorem configureTable_refused_iff (h : Serves view answer) (hreports : ReportsColumns view answer)
    (hd : (view s).dialect = ds.dialect) (hrule : (view s).rule = .ignoringCase)
    (hm : m.isExternal = false)
    (htyped : ∀ f ∈ m.schema.fields, (Datatype.parse? f.descriptor.datatype).isSome) :
    let former :=
      (((view s).table? m.table).map Table.columns).getD [⟨m.primaryKey, ds.dialect.keyType⟩]
    let missing := m.schema.fields.filter fun f => f.name ∉ former.map Column.name
    let collides := ds.dryRun = false ∧ Collides (former.map Column.name) missing
    let refused := ∃ statement name, ((ds.configureTable m).run answer s).1.1 =
      .error (.ddl m.table statement (Database.duplicateColumn name).toError)
    (DuplicatesOnly view answer → refused → collides) ∧
      (Willing view answer → ReportsTaken view answer → collides → refused) := by
  intro former missing collides refused
  have hformer : ((view s).createTable m.table m.primaryKey).columns m.table = former := by
    rw [Database.columns_createTable, hd]
  have hmissing : Datasource.lacking m.schema ⟨former⟩ = missing := Datasource.lacking_eq m.schema ⟨former⟩
  constructor
  · rintro hduplicates ⟨statement, name, hrefused⟩
    cases hdry : ds.dryRun with
    | true => exact absurd hrefused (h.run_configureTable_plan_ne_ddl hreports hdry hd hm _ _)
    | false =>
      have hcollides := h.collides_of_refused hreports hdry hd hrule hm htyped rfl hduplicates hrefused
      rw [hformer, hmissing] at hcollides
      exact ⟨hdry, hcollides⟩
  · rintro hwilling hreported ⟨hdry, hcollides⟩
    rw [← hformer, ← hmissing, ← hformer] at hcollides
    exact h.refused_of_collides hreports hdry hd hrule hm htyped rfl hwilling hreported hcollides

end Serves

namespace Database

/-- A column that is there in another case is refused, and one whose name differs by more than that is
not. -/
theorem configureTable_refused_iff_people :
    let fields : List Field := [⟨"email", ⟨"string", {}⟩⟩, ⟨"name", ⟨"string", {}⟩⟩]
    let ds : Datasource := ⟨.sqlite, false⟩
    let db : Database := { Database.sqlite with
      tables := [.fresh "People" [⟨"_id", "VARCHAR(24)"⟩, ⟨"Name", "TEXT"⟩] none] }
    let refused (fields : List Field) : Prop := ∃ statement name,
      ((ds.configureTable { table := "people", schema := ⟨fields⟩ }).run answer db).1.1 =
        .error (.ddl "people" statement (duplicateColumn name).toError)
    refused fields ∧ ¬refused (fields.take 1) := by
  intro fields ds db refused
  have hd : db.dialect = ds.dialect := rfl
  constructor
  · obtain ⟨-, hrefused⟩ := serves_answer.configureTable_refused_iff
      (m := { table := "people", schema := ⟨fields⟩ }) reportsColumns_answer hd rfl rfl
      (by decide +kernel)
    refine hrefused willing_answer reportsTaken_answer ⟨rfl, ?_⟩
    decide +kernel
  · intro h
    obtain ⟨hcollides, -⟩ := serves_answer.configureTable_refused_iff
      (m := { table := "people", schema := ⟨fields.take 1⟩ }) reportsColumns_answer hd rfl rfl
      (by decide +kernel)
    refine absurd (hcollides duplicatesOnly_answer h).2 ?_
    decide +kernel

/-- The names of all columns differ, but the database takes that of the field for that of the key. -/
theorem configureTable_refuses_key_in_capitals :
    let m : Model := { table := "people", schema := ⟨[⟨"_ID", ⟨"string", {}⟩⟩]⟩ }
    m.schema.names.Nodup ∧
    (∀ f ∈ m.schema.fields, (Datatype.parse? f.descriptor.datatype).isSome) ∧
    ((Datasource.configureTable ⟨.sqlite, false⟩ m).run answer .sqlite).1.1 =
      .error (.ddl "people" "ALTER TABLE \x60people\x60 ADD COLUMN \x60_ID\x60 TEXT"
        (duplicateColumn "_ID").toError) := by
  intro m
  have htable : sqlite.table? m.table = none := by decide +kernel
  have hcolumns : (sqlite.createTable m.table m.primaryKey).columns m.table =
      [⟨"_id", "VARCHAR(24)"⟩] := by
    rw [columns_createTable, htable]
    rfl
  have hlacking : Datasource.lacking m.schema
      ⟨(sqlite.createTable m.table m.primaryKey).columns m.table⟩ =
        [] ++ ⟨"_ID", ⟨"string", {}⟩⟩ :: [] := by
    rw [hcolumns]
    decide +kernel
  have htaken : ¬((sqlite.createTable m.table m.primaryKey).addFields m.table []).Free m.table
      "_ID" := by
    rw [not_free_addFields_iff rule_createTable table?_createTable, hcolumns]
    decide +kernel
  have hadd : (Statement.addColumn .sqlite "people" "_ID" "TEXT").sql =
      "ALTER TABLE \x60people\x60 ADD COLUMN \x60_ID\x60 TEXT" := by
    decide +kernel
  refine ⟨by decide, by decide +kernel, ?_⟩
  have hrun : ((Datasource.configureTable ⟨.sqlite, false⟩ m).run answer .sqlite).1 = _ :=
    serves_answer.run_configureTable_taken willing_answer rfl rfl reportsColumns_answer rfl
      reportsTaken_answer hlacking trivial (by decide +kernel) htaken
  rw [hrun, ← hadd]
  rfl

end Database

end SqlAdapter
