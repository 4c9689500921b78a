import SqlAdapter.Proofs.Configuration
import SqlAdapter.Script

/-!
# Reconciliation

What reconciling a table sends and gives, for every list of replies: the columns are asked for, and
those that the table lacks are added one after the other, until all are there or a first field has no
datatype or a first statement is refused. What was added before stays, and nothing is sent after.
-/

set_option autoImplicit false

namespace SqlAdapter

/-- A field whose column the database has added. -/
structure AddedColumn where
  field : Field
  type : Datatype
  ack : Ack

def AddedColumn.statement (d : Dialect) (table : String) (a : AddedColumn) : Statement :=
  .addColumn d table a.field.name a.type.columnType

def AddedColumn.exchange (d : Dialect) (table : String) (a : AddedColumn) : Exchange :=
  ⟨.execute (a.statement d table), .ok a.ack⟩

/-- How the work ends with some fields left, what is exchanged last, and what comes out. -/
inductive Ending (d : Dialect) (table : String) (texts : List String) :
    List Field → List Exchange → Except Error (List String) → Prop
  /-- No field is left. -/
  | complete : Ending d table texts [] [] (.ok texts)
  /-- The next field names no datatype. Nothing is sent for it. -/
  | unknown {f : Field} {rest : List Field} (h : Datatype.parse? f.descriptor.datatype = none) :
    Ending d table texts (f :: rest) []
      (.error (.unknownDatatype table f.name f.descriptor.datatype))
  /-- The statement for the next field is refused. -/
  | refused {f : Field} {rest : List Field} {t : Datatype} {e : Error}
    (h : Datatype.parse? f.descriptor.datatype = some t) :
    Ending d table texts (f :: rest)
      [⟨.execute (.addColumn d table f.name t.columnType), .error e⟩]
      (.error (.ddl table (Statement.addColumn d table f.name t.columnType).sql e))

/-- The columns of some fields are added in turn, up to an ending. -/
def AddsInTurn (d : Dialect) (table : String) (fields : List Field) (es : List Exchange)
    (result : Except Error (List String)) : Prop :=
  ∃ (added : List AddedColumn) (rest : List Field) (last : List Exchange),
    fields = added.map AddedColumn.field ++ rest ∧
    (∀ a ∈ added, Datatype.parse? a.field.descriptor.datatype = some a.type) ∧
    es = added.map (AddedColumn.exchange d table) ++ last ∧
    Ending d table (added.map fun a => (a.statement d table).sql) rest last result

/-- The exchanges of reconciling a table with a schema, and what comes out. -/
def Reconciles (d : Dialect) (table : String) (schema : Schema) (es : List Exchange)
    (result : Except Error Report) : Prop :=
  ∃ (reply : Except Error (List Record)) (rest : List Exchange),
    es = ⟨.query (.listColumns d table), reply⟩ :: rest ∧
    match reply.bind (LiveSchema.ofRows table) with
    | .error e => rest = [] ∧ result = .error e
    | .ok live => ∃ texts, result = texts.map (fun l => { statements := l }) ∧
        AddsInTurn d table (schema.fields.filter fun f => f.name ∉ live.names) rest texts

/-- The exchanges of configuring the table of a model, and what comes out. -/
def Configures (d : Dialect) (m : Model) (es : List Exchange) (result : Except Error Report) : Prop :=
  ∃ (reply : Except Error Ack) (rest : List Exchange),
    es = ⟨.execute (.createTable d m.table m.primaryKey), reply⟩ :: rest ∧
    match reply with
    | .error e =>
      rest = [] ∧
        result = .error (.ddl m.table (Statement.createTable d m.table m.primaryKey).sql e)
    | .ok _ => ∃ r, Reconciles d m.table m.schema rest r ∧
        result = r.map fun report => { report with
          statements := (Statement.createTable d m.table m.primaryKey).sql :: report.statements }

section

variable {ds : Datasource} {d : Dialect} {table : String} {texts : List String} {fs : List Field}
  {es : List Exchange} {r : Except Error (List String)}

theorem Ending.cons (text : String) (h : Ending d table texts fs es r) :
    Ending d table (text :: texts) fs es (r.map fun l => text :: l) := by
  cases h with
  | complete => exact .complete
  | unknown h => exact .unknown h
  | refused h => exact .refused h

theorem AddsInTurn.cons (a : AddedColumn)
    (ha : Datatype.parse? a.field.descriptor.datatype = some a.type)
    (h : AddsInTurn d table fs es r) :
    AddsInTurn d table (a.field :: fs) (a.exchange d table :: es)
      (r.map fun l => (a.statement d table).sql :: l) := by
  obtain ⟨added, rest, last, rfl, hp, rfl, hend⟩ := h
  refine ⟨a :: added, rest, last, rfl, ?_, rfl, hend.cons _⟩
  intro b hb
  rcases List.mem_cons.1 hb with rfl | hb
  · exact ha
  · exact hp b hb

/-- Every way to add columns adds them in turn, up to an ending. -/
theorem addsInTurn_of_yields (hd : ds.dryRun = false)
    (h : Dialogue.Yields (ds.addColumns table fs) es r) :
    AddsInTurn ds.dialect table fs es r := by
  induction fs generalizing es r with
  | nil =>
    obtain ⟨rfl, rfl⟩ := h
    exact ⟨[], [], [], rfl, by simp, rfl, .complete⟩
  | cons f fs ih =>
    cases ht : Datatype.parse? f.descriptor.datatype with
    | none =>
      rw [Datasource.addColumns_unknown ht] at h
      obtain ⟨rfl, rfl⟩ := h
      exact ⟨[], f :: fs, [], rfl, by simp, rfl, .unknown ht⟩
    | some t =>
      rw [Datasource.addColumns_cons ht, Datasource.change_eq hd] at h
      obtain ⟨reply, rest, rfl, h⟩ := h
      cases reply with
      | error e =>
        obtain ⟨rfl, rfl⟩ := h
        exact ⟨[], f :: fs, _, rfl, by simp, rfl, .refused ht⟩
      | ok ack =>
        change (Dialogue.bind (ds.addColumns table fs) _).Yields rest r at h
        obtain ⟨first, _, r, rfl, hfs, rfl, rfl⟩ := Dialogue.Yields.of_bind h
        rw [List.append_nil]
        exact (ih hfs).cons ⟨f, t, ack⟩ ht

theorem reconciles_of_yields (ds : Datasource) {schema : Schema} {result : Except Error Report}
    (hd : ds.dryRun = false) (h : Dialogue.Yields (ds.reconcileColumns table schema) es result) :
    Reconciles ds.dialect table schema es result := by
  rw [Datasource.reconcileColumns_eq] at h
  obtain ⟨reply, rest, rfl, h⟩ := h
  refine ⟨reply, rest, rfl, ?_⟩
  dsimp only at h
  cases hl : reply.bind (LiveSchema.ofRows table) with
  | error e =>
    rw [hl] at h
    exact h
  | ok live =>
    rw [hl] at h
    obtain ⟨first, _, r, rfl, hfs, rfl, rfl⟩ := Dialogue.Yields.of_bind h
    rw [List.append_nil]
    refine ⟨r, rfl, ?_⟩
    rw [← Datasource.lacking_eq]
    exact addsInTurn_of_yields hd hfs

theorem configures_of_yields (ds : Datasource) {m : Model} {result : Except Error Report × Model}
    (hd : ds.dryRun = false) (hm : m.isExternal = false)
    (h : (ds.configureTable m).Yields es result) :
    Configures ds.dialect m es result.1 ∧ result.2 = m := by
  rw [Datasource.configureTable_eq hm, Datasource.change_eq hd] at h
  obtain ⟨reply, rest, rfl, h⟩ := h
  cases reply with
  | error e =>
    obtain ⟨rfl, rfl⟩ := h
    exact ⟨⟨_, _, rfl, rfl, rfl⟩, rfl⟩
  | ok ack =>
    change (Dialogue.bind (ds.reconcileColumns m.table m.schema) _).Yields rest result at h
    obtain ⟨first, _, r, rfl, hr, rfl, rfl⟩ := Dialogue.Yields.of_bind h
    rw [List.append_nil]
    exact ⟨⟨_, _, rfl, r, reconciles_of_yields ds hd hr, rfl⟩, rfl⟩

end

/-- What reconciling a table and what configuring a model exchange and give outside a dry run,
whatever the replies are. -/
theorem reconciles_and_configures (d : Dialect) (table : String) (schema : Schema) {m : Model}
    (hm : m.isExternal = false) {σ : Type} (answer : (c : Call) → σ → c.Reply × σ) (s : σ) :
    let reconcile : Dialogue _ := Datasource.reconcileColumns ⟨d, false⟩ table schema
    let configure := Datasource.configureTable ⟨d, false⟩ m
    Reconciles d table schema (reconcile.transcript answer s) (reconcile.run answer s).1 ∧
      Configures d m (configure.transcript answer s) (configure.run answer s).1.1 ∧
      (configure.run answer s).1.2 = m := by
  intro reconcile configure
  refine ⟨?_, ?_⟩
  · exact reconciles_of_yields ⟨d, false⟩ rfl (Dialogue.yields_run answer reconcile s)
  · exact configures_of_yields ⟨d, false⟩ rfl hm (Dialogue.yields_run answer configure s)

/-- A declared field is live in another case than its own, one is live with a datatype that does not
parse, and one that is not live has none: the first is added, the second left alone, the third refused. -/
theorem reconciles_and_configures_people :
    let schema : Schema := ⟨[⟨"Name", ⟨"STRING", {}⟩⟩, ⟨"age", ⟨"blob", {}⟩⟩, ⟨"meta", ⟨"blob", {}⟩⟩,
      ⟨"born", ⟨"date", {}⟩⟩]⟩
    let m : Model := { table := "people", schema := schema }
    let row (name : String) : Record := .ofList [("name", .text name), ("type", .null)]
    let script : Script := { replies := [.affected 0, .rows [row "name", row "age"]] }
    let reconcile : Dialogue _ := Datasource.reconcileColumns ⟨.generic, false⟩ "people" schema
    let configure := Datasource.configureTable ⟨.generic, false⟩ m
    m.isExternal = false ∧
      (configure.run Script.answer script).1.1 = .error (.unknownDatatype "people" "meta" "blob") ∧
      Reconciles .generic "people" schema (reconcile.transcript Script.answer script)
        (reconcile.run Script.answer script).1 ∧
      Configures .generic m (configure.transcript Script.answer script)
        (configure.run Script.answer script).1.1 ∧
      (configure.run Script.answer script).1.2 = m := by
  intro schema m row script reconcile configure
  exact ⟨rfl, rfl,
    reconciles_and_configures .generic "people" schema rfl Script.answer script⟩

end SqlAdapter
