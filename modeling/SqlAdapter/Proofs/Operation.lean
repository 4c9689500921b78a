import SqlAdapter.Datasource.Configuration
import SqlAdapter.Datasource.Rows
import SqlAdapter.Proofs.Selection
import SqlAdapter.Proofs.Sql.Names
import SqlAdapter.Proofs.Transcript
import SqlAdapter.Script

/-!
# Operations

What a caller can ask of a datasource, and the commands that each operation speaks. Whatever the
replies, every statement of an operation is the text of one of its commands with a value for each
placeholder. So a name is never more than the content of its quotes.
-/

set_option autoImplicit false

namespace SqlAdapter

inductive Operation where
  | ensureTable (table primaryKey : String)
  | reconcileColumns (table : String) (schema : Schema)
  | configureTable (m : Model)
  | loadExternalSchema (m : Model)
  | insertRecord (m : Model) (r : Record)
  | selectRows (table : String) (c : Criteria)

namespace Operation

abbrev Result : Operation → Type
  | ensureTable .. => Except Error String
  | reconcileColumns .. => Except Error Report
  | configureTable _ => Except Error Report × Model
  | loadExternalSchema _ => Except Error (List (String × Datatype)) × Model
  | insertRecord .. => Except Error Record × Model
  | selectRows .. => Except Error (List Record)

def dialogue (ds : Datasource) : (op : Operation) → Dialogue op.Result
  | ensureTable table primaryKey => ds.ensureTable table primaryKey
  | reconcileColumns table schema => ds.reconcileColumns table schema
  | configureTable m => ds.configureTable m
  | loadExternalSchema m => ds.loadExternalSchema m
  | insertRecord m r => ds.insertRecord m r
  | selectRows table c => ds.selectRows table c

/-- The command that adds the column of a field, if the field has a datatype. -/
def addition? (table : String) (f : Field) : Option Sql.Command :=
  (Datatype.parse? f.descriptor.datatype).map fun t => .addColumn table f.name t.columnType

/-- Lists the columns of a table, and adds that of any declared field. -/
def reconciling (table : String) (schema : Schema) : List Sql.Command :=
  .listColumns :: schema.fields.filterMap (addition? table)

/-- The commands that an operation may send. -/
def commands (d : Dialect) : Operation → List Sql.Command
  | ensureTable table primaryKey => [.createTable table primaryKey]
  | reconcileColumns table schema => reconciling table schema
  | configureTable m =>
    if m.isExternal then [.listColumns]
    else .createTable m.table m.primaryKey :: reconciling m.table m.schema
  | loadExternalSchema _ => [.listColumns]
  | insertRecord m r =>
    [.insert m.table r.names,
      .select ⟨m.table, some (.atom (.compare m.primaryKey .eq)), [], none, none⟩]
  | selectRows table c =>
    match Statement.selectCommand d table c with
    | .ok s => [.select s]
    | .error _ => []

/-- The call sends one of the commands with a value for each placeholder. -/
def Speaks (d : Dialect) (cs : List Sql.Command) (call : Call) : Prop :=
  ∃ c ∈ cs, c.IsTyped ∧ ∃ vs : List Value,
    call.statement = Statement.ofCommand d c vs ∧ vs.length = c.arity

variable {ds : Datasource} {d : Dialect} {cs : List Sql.Command} {table : String} {schema : Schema}

theorem asks_change {P : Call → Prop} {s : Statement} (h : P (.execute s)) :
    (ds.change table s).Asks P := by
  unfold Datasource.change
  split
  · trivial
  · constructor
    · exact h
    · intro r
      cases r <;> trivial

theorem asks_tableInfo (h : .listColumns ∈ cs) :
    (ds.tableInfo table).Asks (Speaks ds.dialect cs) := by
  apply Attempt.asks_bind
  · exact Attempt.asks_query ⟨_, h, trivial, [.text table], rfl, rfl⟩
  · exact fun rows => Attempt.asks_ofExcept _

theorem asks_ensureTable {key : String} (h : .createTable table key ∈ cs) :
    (ds.ensureTable table key).Asks (Speaks ds.dialect cs) := by
  apply Attempt.asks_bind
  · exact asks_change ⟨_, h, trivial, [], rfl, rfl⟩
  · exact fun _ => Attempt.asks_pure _

theorem asks_addColumns {fs : List Field}
    (h : ∀ f ∈ fs, ∀ c ∈ addition? table f, c ∈ cs) :
    (ds.addColumns table fs).Asks (Speaks ds.dialect cs) := by
  induction fs with
  | nil => trivial
  | cons f fs ih =>
    have hrest := ih fun g hg => h g (List.mem_cons_of_mem _ hg)
    have hf := h f List.mem_cons_self
    simp only [addition?] at hf
    unfold Datasource.addColumns Datasource.newColumn
    cases ht : Datatype.parse? f.descriptor.datatype with
    | none => trivial
    | some t =>
      -- the statement is known once the datatype is
      show Dialogue.Asks _ (ds.change table (.addColumn ds.dialect table f.name t.columnType) >>= _ :
        Attempt _)
      apply Attempt.asks_bind
      · have hc : Sql.Command.addColumn table f.name t.columnType ∈ cs := hf _ (by simp [ht])
        exact asks_change ⟨_, hc, ⟨t, rfl⟩, [], rfl, rfl⟩
      · exact fun _ => Attempt.asks_bind hrest fun _ => Attempt.asks_pure _

theorem asks_reconcileColumns (h : ∀ c ∈ reconciling table schema, c ∈ cs) :
    (ds.reconcileColumns table schema).Asks (Speaks ds.dialect cs) := by
  apply Attempt.asks_bind
  · exact asks_tableInfo (h _ List.mem_cons_self)
  · intro live
    apply Attempt.asks_bind
    · apply asks_addColumns
      intro f hf c hc
      have hm : f ∈ schema.fields := List.mem_of_mem_filter hf
      exact h c (List.mem_cons_of_mem _ (List.mem_filterMap.2 ⟨f, hm, hc⟩))
    · exact fun _ => Attempt.asks_pure _

theorem asks_loadExternalSchema (m : Model) (h : .listColumns ∈ cs) :
    (ds.loadExternalSchema m).Asks (Speaks ds.dialect cs) := by
  apply (asks_tableInfo h).bind
  intro r
  cases r <;> trivial

theorem asks_configureTable (m : Model) :
    (ds.configureTable m).Asks (Speaks ds.dialect ((configureTable m).commands ds.dialect)) := by
  unfold Datasource.configureTable
  cases hm : m.isExternal with
  | true =>
    have hcs : .listColumns ∈ (configureTable m).commands ds.dialect := by simp [commands, hm]
    exact (asks_loadExternalSchema m hcs).bind fun _ => trivial
  | false =>
    have hcs : (configureTable m).commands ds.dialect =
        .createTable m.table m.primaryKey :: reconciling m.table m.schema := by simp [commands, hm]
    rw [hcs]
    apply Dialogue.Asks.bind
    · apply Attempt.asks_bind (asks_ensureTable List.mem_cons_self)
      intro create
      apply Attempt.asks_bind (asks_reconcileColumns fun c hc => List.mem_cons_of_mem _ hc)
      exact fun _ => Attempt.asks_pure _
    · exact fun _ => trivial

theorem asks_selectRows (c : Criteria) :
    (ds.selectRows table c).Asks (Speaks ds.dialect ((selectRows table c).commands ds.dialect)) := by
  unfold Datasource.selectRows Datasource.compileSelect Statement.select
  simp only [commands, Statement.selectCommand_eq]
  cases c.order with
  | error e => trivial
  | ok o =>
    apply Attempt.asks_query
    refine ⟨_, List.mem_singleton_self _, trivial, _, rfl, ?_⟩
    show ((c.filter.map Filter.operands).getD []).length =
      ((c.filter.map Filter.condition).map Sql.arityOf).getD 0
    cases c.filter with
    | none => rfl
    | some f => exact (Filter.arityOf_condition f).symm

theorem asks_insertRecord (m : Model) (r : Record) :
    (ds.insertRecord m r).Asks (Speaks ds.dialect ((insertRecord m r).commands ds.dialect)) := by
  have hback : (ds.readBack m r).Asks
      (Speaks ds.dialect ((insertRecord m r).commands ds.dialect)) := by
    unfold Datasource.readBack
    cases r.get? m.primaryKey with
    | none => trivial
    | some key =>
      apply Attempt.asks_bind
      · apply Attempt.asks_query
        exact ⟨_, List.mem_cons_of_mem _ List.mem_cons_self, trivial, [key], rfl, rfl⟩
      · intro rows
        cases rows <;> trivial
  unfold Datasource.insertRecord Statement.insert
  by_cases he : r.isEmpty
  · simp only [he, if_true]
    trivial
  · simp only [he]
    constructor
    · refine ⟨_, List.mem_cons_self, trivial, r.values, rfl, ?_⟩
      simp [Record.values, Record.names, Sql.Command.arity]
    · intro reply
      cases reply with
      | error e => trivial
      | ok ack =>
        dsimp only
        cases Datasource.echoed? m.primaryKey ack with
        | some row => trivial
        | none => exact hback.bind fun _ => Dialogue.asks_done _

theorem asks_dialogue (ds : Datasource) (op : Operation) :
    (op.dialogue ds).Asks (Speaks ds.dialect (op.commands ds.dialect)) := by
  cases op with
  | ensureTable table key => exact asks_ensureTable List.mem_cons_self
  | reconcileColumns table schema => exact asks_reconcileColumns fun _ hc => hc
  | configureTable m => exact asks_configureTable m
  | loadExternalSchema m => exact asks_loadExternalSchema m List.mem_cons_self
  | insertRecord m r => exact asks_insertRecord m r
  | selectRows table c => exact asks_selectRows c

/-- Whatever the names and the replies, every text sent is scanned into the names of a command of the
operation. All quotes are closed, and outside them are words of the vocabulary and one question mark
for each value sent. -/
theorem scan_transcript (ds : Datasource) (op : Operation) {σ : Type}
    (answer : (c : Call) → σ → c.Reply × σ) (s : σ) {e : Exchange}
    (he : e ∈ (op.dialogue ds).transcript answer s) :
    ∃ c ∈ op.commands ds.dialect, e.call.statement.sql = c.text ds.dialect ∧
      ∃ outside, Sql.scan ds.dialect.quote none e.call.statement.sql.toList =
          some (c.names.map String.toList, outside) ∧
        Sql.IsFixed outside ∧ outside.count '?' = e.call.statement.values.length := by
  obtain ⟨c, hc, htyped, vs, hs, hn⟩ := (asks_dialogue ds op).transcript he
  have htext : e.call.statement.sql = c.text ds.dialect := by rw [hs]; rfl
  have hvalues : e.call.statement.values = vs := by rw [hs]; rfl
  obtain ⟨outside, hscan, hfixed, hmarks⟩ := c.scan_text (d := ds.dialect) htyped
  refine ⟨c, hc, htext, outside, ?_, hfixed, ?_⟩
  · rw [htext]
    exact hscan
  · rw [hmarks, hvalues, hn]

/-- The last statement of configuring a table whose names try to leave their quotes. -/
theorem scan_transcript_hostile :
    let schema : Schema := ⟨[⟨"?\x60", ⟨"string", {}⟩⟩, ⟨"\x60) VALUES (?", ⟨"Number", {}⟩⟩]⟩
    let m : Model := { table := "t\x60; DROP TABLE u", primaryKey := "\x60\x60", schema := schema }
    ∃ e ∈ ((configureTable m).dialogue ⟨.mysql, false⟩).transcript Script.answer {},
      e.call.statement.sql =
        "ALTER TABLE \x60t\x60\x60; DROP TABLE u\x60 ADD COLUMN \x60\x60\x60) VALUES (?\x60 INT" ∧
      ∃ c ∈ (configureTable m).commands .mysql, e.call.statement.sql = c.text .mysql ∧
        ∃ outside, Sql.scan Dialect.mysql.quote none e.call.statement.sql.toList =
            some (c.names.map String.toList, outside) ∧
          Sql.IsFixed outside ∧ outside.count '?' = e.call.statement.values.length := by
  intro schema m
  have he : (⟨.execute (Statement.addColumn .mysql m.table "\x60) VALUES (?" "INT"),
      .ok (.affected 0)⟩ : Exchange) ∈
        ((configureTable m).dialogue ⟨.mysql, false⟩).transcript Script.answer {} :=
    .tail _ (.tail _ (.tail _ (.head _)))
  exact ⟨_, he, by decide +kernel, scan_transcript _ _ _ _ he⟩

end Operation

end SqlAdapter
