import SqlAdapter.Proofs.Database.Acceptance
import SqlAdapter.Proofs.Declarations
import SqlAdapter.Proofs.Transcript

/-!
# Repeated fields

The schema of a model file repeats the names that the file repeats. A client that configures a table that
does not exist sends a statement for each field in turn, and the database refuses the first column that
it takes for one of the same run.
-/

set_option autoImplicit false

namespace SqlAdapter

/-- No two of the names are the same. -/
def NameRule.Distinct (rule : NameRule) (names : List String) : Prop :=
  names.Pairwise fun s t => rule.same s t = false

instance (rule : NameRule) (names : List String) : Decidable (rule.Distinct names) :=
  inferInstanceAs (Decidable (names.Pairwise fun s t => rule.same s t = false))

/-- The column that a call asks a database to add. -/
def Call.addedColumn? (d : Dialect) (c : Call) : Option String :=
  match Sql.Command.read? d c.statement.sql with
  | some (.addColumn _ column _) => some column
  | _ => none

/-- The fields that a client has to add columns for when it creates the table with its key alone: those up
to the first that has no datatype. A dry run and an external model add none. -/
def Datasource.newFields (ds : Datasource) (m : Model) : List Field :=
  if ds.dryRun ∨ m.isExternal then []
  else (m.schema.fields.filter fun f => f.name ∉ [m.primaryKey]).takeWhile fun f =>
    (Datatype.parse? f.descriptor.datatype).isSome

section

variable {d : Dialect} {table : String} {f : Field}

theorem Field.addedColumn?_addition :
    (Call.execute (f.addition d table)).addedColumn? d = some f.name := by
  have hread : Sql.Command.read? d (f.addition d table).sql =
      some (.addColumn table f.column.name f.column.type) := Sql.Command.read?_text trivial
  rw [Call.addedColumn?, Call.statement, hread]
  rfl

theorem Call.addedColumn?_createTable {key : String} :
    (Call.execute (.createTable d table key)).addedColumn? d = none := by
  have hread : Sql.Command.read? d (Statement.createTable d table key).sql =
      some (.createTable table key) := Sql.Command.read?_text trivial
  rw [addedColumn?, statement, hread]

theorem Call.addedColumn?_listColumns : (Call.query (.listColumns d table)).addedColumn? d = none := by
  have hread : Sql.Command.read? d (Statement.listColumns d table).sql = some .listColumns :=
    Sql.Command.read?_text trivial
  rw [addedColumn?, statement, hread]

end

/-- The columns that a dialogue asks a server to add, in the order of its calls. -/
def askedColumns {α σ : Type} (answer : (c : Call) → σ → c.Reply × σ) (d : Dialect) (x : Dialogue α)
    (s : σ) : List String :=
  (x.transcript answer s).filterMap fun e => e.call.addedColumn? d

section

variable {α β σ : Type} {answer : (c : Call) → σ → c.Reply × σ} {d : Dialect} {s : σ}

theorem askedColumns_bind {x : Dialogue α} {g : α → Dialogue β} :
    askedColumns answer d (x.bind g) s =
      askedColumns answer d x s ++ askedColumns answer d (g (x.run answer s).1) (x.run answer s).2 := by
  rw [askedColumns, Dialogue.transcript_bind, List.filterMap_append]
  rfl

@[simp] theorem askedColumns_done {a : α} : askedColumns answer d (.done a) s = [] := rfl

theorem askedColumns_call {c : Call} {next : c.Reply → Dialogue α} :
    askedColumns answer d (.call c next) s =
      (c.addedColumn? d).toList ++ askedColumns answer d (next (answer c s).1) (answer c s).2 := by
  rw [askedColumns, Dialogue.transcript_call, List.filterMap_cons]
  cases h : c.addedColumn? d <;> rfl

end

/-- Fields with datatypes are accepted by a table that has its key alone exactly if their names and that of
the key are distinct. -/
theorem Database.accepts_iff_distinct {db : Database} {table : String} {fs : List Field} {c : Column}
    (ht : (db.table? table).isSome) (hc : db.columns table = [c])
    (htyped : ∀ f ∈ fs, (Datatype.parse? f.descriptor.datatype).isSome) :
    db.Accepts table fs ↔ db.rule.Distinct (c.name :: fs.map Field.name) := by
  rw [accepts_iff ht, NameRule.Distinct, List.pairwise_cons, List.forall_mem_map, List.pairwise_map]
  simp only [Free, hc, List.forall_mem_singleton]
  exact and_iff_right htyped

/-- How a run ends that has to ask for columns of some names in a table with a key alone: the names are
distinct and all asked for, or those that are asked for are not, and the last of them is refused. -/
def Ends (rule : NameRule) (table key : String) (names asked : List String) {α : Type}
    (result : Except Error α) : Prop :=
  (rule.Distinct (key :: names) ∧ asked = names ∧
    ∀ statement name, result ≠ .error (.ddl table statement (Database.duplicateColumn name).toError)) ∨
  (¬rule.Distinct (key :: asked) ∧ asked <+: names ∧
    ∃ statement name, result = .error (.ddl table statement (Database.duplicateColumn name).toError))

theorem Ends.map {α β : Type} {rule : NameRule} {table key : String} {names asked : List String}
    {result : Except Error α} (h : Ends rule table key names asked result) (g : α → β) :
    Ends rule table key names asked (result.map g) := by
  have herror : ∀ e, result.map g = .error e ↔ result = .error e := by
    intro e
    cases result <;> simp [Except.map]
  unfold Ends
  simp only [ne_eq, herror]
  exact h

namespace Serves

variable {σ : Type} {view : σ → Database} {answer : (c : Call) → σ → c.Reply × σ} {s : σ}
  {ds : Datasource} {m : Model} {table : String} {f : Field} {fs done rest : List Field}
  (h : Serves view answer)

include h

section

variable (hwilling : Willing view answer) (hdry : ds.dryRun = false)
  (hready : (view s).Ready ds.dialect table)

include hwilling hdry hready

theorem askedColumns_addColumns_accepted (haccepts : (view s).Accepts table fs) :
    askedColumns answer ds.dialect (ds.addColumns table fs) s = fs.map Field.name := by
  induction fs generalizing s with
  | nil => rfl
  | cons f fs ih =>
    obtain ⟨htyped, hfree, hfs⟩ := haccepts
    obtain ⟨ack, next, hnext, hview⟩ := h.added hready htyped hwilling hfree
    have hthen := hready.addColumn f.column
    rw [← hview] at hfs hthen
    rw [Datasource.addColumns_call hdry htyped, askedColumns_call, Field.addedColumn?_addition, hnext]
    dsimp only
    rw [askedColumns_bind, askedColumns_done, ih hthen hfs, List.append_nil]
    rfl

/-- Columns that are accepted are asked for before the others. -/
theorem askedColumns_addColumns_append (haccepts : (view s).Accepts table done) (rest : List Field) :
    ∃ s', view s' = (view s).addFields table done ∧
      askedColumns answer ds.dialect (ds.addColumns table (done ++ rest)) s =
        done.map Field.name ++ askedColumns answer ds.dialect (ds.addColumns table rest) s' := by
  obtain ⟨hrun, hview⟩ := h.run_addColumns_accepted hwilling hdry hready haccepts
  refine ⟨_, hview, ?_⟩
  rw [Datasource.addColumns_append hdry, askedColumns_bind,
    h.askedColumns_addColumns_accepted hwilling hdry hready haccepts, hrun]
  dsimp only
  rw [askedColumns_bind, askedColumns_done, List.append_nil]

theorem askedColumns_addColumns_untyped (haccepts : (view s).Accepts table done)
    (hf : Datatype.parse? f.descriptor.datatype = none) :
    askedColumns answer ds.dialect (ds.addColumns table (done ++ f :: rest)) s =
      done.map Field.name := by
  obtain ⟨s', -, hasked⟩ := h.askedColumns_addColumns_append hwilling hdry hready haccepts (f :: rest)
  rw [hasked, Datasource.addColumns_unknown hf, askedColumns_done, List.append_nil]

theorem askedColumns_addColumns_taken (hreported : ReportsTaken view answer)
    (haccepts : (view s).Accepts table done) (hf : (Datatype.parse? f.descriptor.datatype).isSome)
    (htaken : ¬((view s).addFields table done).Free table f.name) (rest : List Field) :
    askedColumns answer ds.dialect (ds.addColumns table (done ++ f :: rest)) s =
      (done ++ [f]).map Field.name := by
  obtain ⟨s', hview, hasked⟩ :=
    h.askedColumns_addColumns_append hwilling hdry hready haccepts (f :: rest)
  have hthen := hready.addFields done
  rw [← hview] at htaken hthen
  obtain ⟨last, hlast, -⟩ := h.refused_duplicate hthen hf hreported htaken
  rw [hasked, Datasource.addColumns_call hdry hf, askedColumns_call, Field.addedColumn?_addition,
    hlast]
  simp

theorem ends_addColumns {c : Column} (hreported : ReportsTaken view answer)
    (hc : (view s).columns table = [c]) (fs : List Field) :
    Ends (view s).rule table c.name
      ((fs.takeWhile fun f => (Datatype.parse? f.descriptor.datatype).isSome).map Field.name)
      (askedColumns answer ds.dialect (ds.addColumns table fs) s)
      (Dialogue.run answer (ds.addColumns table fs) s).1 := by
  have hparse : ∀ fs, (view s).Accepts table fs →
      ∀ f ∈ fs, (Datatype.parse? f.descriptor.datatype).isSome := fun fs haccepts =>
    ((Database.accepts_iff hready.there).1 haccepts).1
  have hdistinct : ∀ fs, (view s).Accepts table fs →
      (view s).rule.Distinct (c.name :: fs.map Field.name) := fun fs haccepts =>
    (Database.accepts_iff_distinct hready.there hc (hparse fs haccepts)).1 haccepts
  rcases Database.accepts_or_stops (view s) table fs with
    hall | ⟨done, f, rest, rfl, hdone, hnone | ⟨hf, htaken⟩⟩
  · have htyped : (fs.takeWhile fun f => (Datatype.parse? f.descriptor.datatype).isSome) = fs := by
      have happend : ((fs ++ []).takeWhile fun f => (Datatype.parse? f.descriptor.datatype).isSome) =
          fs ++ [] := List.takeWhile_append_of_pos (hparse fs hall)
      rwa [List.append_nil] at happend
    refine .inl ⟨?_, ?_, ?_⟩
    · rw [htyped]
      exact hdistinct fs hall
    · rw [htyped]
      exact h.askedColumns_addColumns_accepted hwilling hdry hready hall
    · rw [(h.run_addColumns_accepted hwilling hdry hready hall).1]
      rintro statement name ⟨⟩
  · have htyped : ((done ++ f :: rest).takeWhile fun f =>
        (Datatype.parse? f.descriptor.datatype).isSome) = done := by
      rw [List.takeWhile_append_of_pos (hparse done hdone), List.takeWhile_cons, hnone]
      simp
    refine .inl ⟨?_, ?_, ?_⟩
    · rw [htyped]
      exact hdistinct done hdone
    · rw [htyped]
      exact h.askedColumns_addColumns_untyped hwilling hdry hready hdone hnone
    · rw [h.run_addColumns_untyped hwilling hdry hready hdone hnone]
      rintro statement name ⟨⟩
  · have hasked := h.askedColumns_addColumns_taken hwilling hdry hready hreported hdone hf htaken rest
    have hreached : ∀ g ∈ done ++ [f], (Datatype.parse? g.descriptor.datatype).isSome := by
      rw [List.forall_mem_append, List.forall_mem_singleton]
      exact ⟨hparse done hdone, hf⟩
    have hsplit : done ++ f :: rest = (done ++ [f]) ++ rest := by simp
    refine .inr ⟨?_, ?_, ?_⟩
    · rw [hasked, ← Database.accepts_iff_distinct hready.there hc hreached, Database.accepts_append]
      rintro ⟨-, -, hfree, -⟩
      exact htaken hfree
    · rw [hasked, hsplit, List.takeWhile_append_of_pos hreached]
      exact (List.prefix_append _ _).map _
    · rw [h.run_addColumns_taken hwilling hdry hready hreported hdone hf htaken]
      exact ⟨_, _, rfl⟩

end

theorem configureTable_still (hreports : ReportsColumns view answer)
    (hd : (view s).dialect = ds.dialect) (hstill : ds.dryRun ∨ m.isExternal) :
    askedColumns answer ds.dialect (ds.configureTable m) s = [] ∧
      ∀ statement name, ((ds.configureTable m).run answer s).1.1 ≠
        .error (.ddl m.table statement (Database.duplicateColumn name).toError) := by
  obtain ⟨rows, live, next, hnext, hlive, -⟩ := h.listed hd hreports m.table
  cases hm : m.isExternal with
  | true =>
    rw [Datasource.configureTable_external hm, Datasource.loadExternalSchema_eq,
      Dialogue.call_bind, askedColumns_call, Call.addedColumn?_listColumns, Dialogue.run_call, hnext]
    simp only [Except.bind, hlive]
    refine ⟨rfl, ?_⟩
    rintro statement name ⟨⟩
  | false =>
    have hdry : ds.dryRun = true := by simpa [hm] using hstill
    constructor
    · rw [Datasource.configureTable_plan hdry hm, askedColumns_call, Call.addedColumn?_listColumns,
        hnext]
      simp only [Except.bind, hlive]
      rfl
    · exact fun statement name => h.run_configureTable_plan_ne_ddl hreports hdry hd hm statement _

section

variable (hreports : ReportsColumns view answer) (hwilling : Willing view answer)
  (hd : (view s).dialect = ds.dialect)

include hreports hwilling hd

theorem asked_and_run_configureTable (hdry : ds.dryRun = false) (hm : m.isExternal = false) :
    let created := (view s).createTable m.table m.primaryKey
    let adding : Dialogue (Except Error (List String)) :=
      ds.addColumns m.table (Datasource.lacking m.schema ⟨created.columns m.table⟩)
    ∃ listed, view listed = created ∧
      askedColumns answer ds.dialect (ds.configureTable m) s =
        askedColumns answer ds.dialect adding listed ∧
      ((ds.configureTable m).run answer s).1.1 =
        Datasource.reportCreated (.createTable ds.dialect m.table m.primaryKey)
          ((adding.run answer listed).1.map fun l => { statements := l }) := by
  intro created adding
  obtain ⟨create, list, listed, hcreate, hlist, hview, htranscript, hrun⟩ :=
    h.run_configureTable_eq hwilling hdry hd hreports hm
  refine ⟨listed, hview, ?_, by rw [hrun]⟩
  rw [askedColumns, htranscript, List.filterMap_cons, hcreate, Call.addedColumn?_createTable,
    List.filterMap_cons, hlist, Call.addedColumn?_listColumns]
  rfl

/-- What configuring a table that does not exist comes to. -/
theorem ends_configureTable (hreported : ReportsTaken view answer)
    (hnone : (view s).table? m.table = none) :
    Ends (view s).rule m.table m.primaryKey ((ds.newFields m).map Field.name)
      (askedColumns answer ds.dialect (ds.configureTable m) s)
      ((ds.configureTable m).run answer s).1.1 := by
  by_cases hstill : ds.dryRun ∨ m.isExternal
  · obtain ⟨hasked, hresult⟩ := h.configureTable_still hreports hd hstill
    rw [Datasource.newFields, if_pos hstill, hasked]
    exact .inl ⟨List.pairwise_singleton _ _, rfl, hresult⟩
  · have hdry : ds.dryRun = false := by simpa using fun hdry => hstill (.inl hdry)
    have hm : m.isExternal = false := by simpa using fun hm => hstill (.inr hm)
    have hcolumns : ((view s).createTable m.table m.primaryKey).columns m.table =
        [⟨m.primaryKey, (view s).dialect.keyType⟩] := by
      rw [Database.columns_createTable, hnone]
      rfl
    have hlacking : (Datasource.lacking m.schema
        ⟨((view s).createTable m.table m.primaryKey).columns m.table⟩) =
          m.schema.fields.filter fun f => f.name ∉ [m.primaryKey] := by
      rw [hcolumns, Datasource.lacking_eq]
      rfl
    obtain ⟨listed, hview, hasked, hresult⟩ :=
      h.asked_and_run_configureTable hreports hwilling hd hdry hm
    have hready : ((view s).createTable m.table m.primaryKey).Ready ds.dialect m.table :=
      Database.ready_createTable hd
    rw [← hview] at hcolumns hready
    have hadded := h.ends_addColumns hwilling hdry hready hreported hcolumns
      (m.schema.fields.filter fun f => f.name ∉ [m.primaryKey])
    rw [hview, Database.rule_createTable] at hadded
    rw [hasked, hresult, hlacking, Datasource.newFields, if_neg hstill]
    exact (hadded.map _).map _

/-- The schema of a file that is accepted has the names that the file declares, in their order and with
their repetitions. On a database without its table the columns of the fields are asked for in turn, and
none of them is refused exactly if the database takes no two of them, nor one and the key, for the same;
one is asked for under the name of another exactly if it is refused. -/
theorem configureTable_loaded (hreported : ReportsTaken view answer) {content : Option ByteArray}
    (hload : Model.load content = .ok m) (hnone : (view s).table? m.table = none) :
    let names := (ds.newFields m).map Field.name
    let asked := askedColumns answer ds.dialect (ds.configureTable m) s
    let refused := ∃ statement name, ((ds.configureTable m).run answer s).1.1 =
      .error (.ddl m.table statement (Database.duplicateColumn name).toError)
    (∃ bytes text file, content = some bytes ∧ String.fromUTF8? bytes = some text ∧
      Json.Written.ofString? text = some file ∧ m.schema.names = Model.writtenNames file) ∧
    (refused ↔ ¬(view s).rule.Distinct (m.primaryKey :: names)) ∧
    (refused ↔ ¬(view s).rule.Distinct (m.primaryKey :: asked)) ∧
    asked <+: names ∧ (¬refused → asked = names) := by
  intro names asked refused
  obtain ⟨bytes, text, file, hbytes, htext, hfile, hread⟩ := Model.file_of_load hload
  refine ⟨⟨bytes, text, file, hbytes, htext, hfile, Model.names_of_ofWritten? hread⟩, ?_⟩
  rcases h.ends_configureTable hreports hwilling hd hreported hnone with
    ⟨hdistinct, hasked, hresult⟩ | ⟨hrepeats, hinitial, hrefused⟩
  · have hnot : ¬refused := fun ⟨statement, name, hrefused⟩ => hresult statement name hrefused
    have heq : asked = names := hasked
    have hinit : asked <+: names := heq ▸ List.prefix_rfl
    refine ⟨iff_of_false hnot (not_not_intro hdistinct), iff_of_false hnot ?_, hinit, fun _ => heq⟩
    rw [heq]
    exact not_not_intro hdistinct
  · have hinit : asked <+: names := hinitial
    refine ⟨iff_of_true hrefused ?_, iff_of_true hrefused hrepeats, hinit,
      fun hnot => absurd hrefused hnot⟩
    intro hdistinct
    exact hrepeats (hdistinct.sublist (hinit.sublist.cons_cons _))

end

end Serves

namespace Database

/-- A model whose file declares a field twice. -/
def twice : Model :=
  { table := "people", schema := ⟨[⟨"name", ⟨"string", {}⟩⟩, ⟨"name", ⟨"string", {}⟩⟩]⟩ }

theorem load_twice : Model.load (some twice.toJson.compact.toByteArray) = .ok twice := by
  apply Model.load_text
  rw [Model.ofString?, Json.Written.ofString?, Json.compact, String.toList_ofList]
  decide +kernel

theorem table?_twice : sqlite.table? twice.table = none := by
  decide +kernel

/-- The second of two columns of one name is refused. -/
theorem configureTable_loaded_twice :
    ∃ statement name, ((Datasource.configureTable ⟨.sqlite, false⟩ twice).run answer .sqlite).1.1 =
      .error (.ddl twice.table statement (duplicateColumn name).toError) := by
  have hd : sqlite.dialect = (Datasource.mk .sqlite false).dialect := rfl
  obtain ⟨-, hrefused, -⟩ := serves_answer.configureTable_loaded reportsColumns_answer willing_answer hd
    reportsTaken_answer load_twice table?_twice
  apply hrefused.2
  decide +kernel

/-- A file that is accepted declares a name twice, two columns of this name are asked for, and the second
is refused because the first is there. -/
theorem configureTable_repeats_declared_name :
    Model.load (some twice.toJson.compact.toByteArray) = .ok twice ∧ ¬twice.schema.names.Nodup ∧
    sqlite.table? twice.table = none ∧
    askedColumns answer .sqlite (Datasource.configureTable ⟨.sqlite, false⟩ twice) sqlite =
      ["name", "name"] ∧
    ((Datasource.configureTable ⟨.sqlite, false⟩ twice).run answer .sqlite).1.1 =
      .error (.ddl "people" "ALTER TABLE \x60people\x60 ADD COLUMN \x60name\x60 TEXT"
        (duplicateColumn "name").toError) := by
  let created := sqlite.createTable twice.table twice.primaryKey
  let f : Field := ⟨"name", ⟨"string", {}⟩⟩
  have hdry : (Datasource.mk .sqlite false).dryRun = false := rfl
  have hd : sqlite.dialect = (Datasource.mk .sqlite false).dialect := rfl
  have hready : created.Ready (Datasource.mk .sqlite false).dialect twice.table := ready_createTable hd
  have hcolumns : created.columns twice.table = [⟨"_id", "VARCHAR(24)"⟩] := by
    rw [columns_createTable, table?_twice]
    rfl
  have htyped : (Datatype.parse? f.descriptor.datatype).isSome := by decide +kernel
  have hlacking : Datasource.lacking twice.schema ⟨created.columns twice.table⟩ = [f] ++ [f] := by
    rw [hcolumns]
    decide +kernel
  have hfirst : created.Accepts twice.table [f] := by
    rw [accepts_iff_distinct hready.there hcolumns (List.forall_mem_singleton.2 htyped)]
    decide +kernel
  have htaken : ¬(created.addFields twice.table [f]).Free twice.table f.name := by
    rw [free_addFields hready.there]
    rintro ⟨-, hdiffer⟩
    exact absurd (hdiffer f List.mem_cons_self) (by decide +kernel)
  have hadd : (f.addition .sqlite "people").sql =
      "ALTER TABLE \x60people\x60 ADD COLUMN \x60name\x60 TEXT" := by
    decide +kernel
  obtain ⟨listed, hview, hconfigured, -⟩ := serves_answer.asked_and_run_configureTable (m := twice)
    reportsColumns_answer willing_answer hd hdry rfl
  obtain rfl : listed = created := hview
  have hasked := serves_answer.askedColumns_addColumns_taken willing_answer hdry hready
    reportsTaken_answer hfirst htyped htaken []
  rw [← hlacking] at hasked
  have hrun := serves_answer.run_configureTable_taken willing_answer hdry hd reportsColumns_answer rfl
    reportsTaken_answer hlacking hfirst htyped htaken
  refine ⟨load_twice, by decide +kernel, table?_twice, hconfigured.trans hasked, ?_⟩
  rw [hrun, ← hadd]
  rfl

end Database

end SqlAdapter
