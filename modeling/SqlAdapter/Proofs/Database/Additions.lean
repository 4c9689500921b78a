import SqlAdapter.Proofs.Database.Growth
import SqlAdapter.Proofs.Database.Retries
import SqlAdapter.Proofs.Planning

/-!
# Servers that are only added to

Main statement: whatever a datasource is asked to do, one thing after another and with any call refused,
the database of the server has grown by as many rows as insertions were acknowledged, and in a dry run it
has the tables and columns that it had.
-/

set_option autoImplicit false

namespace SqlAdapter

variable {d : Dialect} {q : Sql.Command}

/-- The call sends a command of a kind with a value for each placeholder. -/
def Sends (d : Dialect) (kind : Sql.Command → Prop) (c : Call) : Prop :=
  ∃ q, kind q ∧ ∃ vs : List Value, c.statement = .ofCommand d q vs ∧ vs.length = q.arity

/-! ## What is asked of a datasource -/

namespace Operation

variable {ds : Datasource} {op : Operation} {kind : Sql.Command → Prop}

theorem configures_of_mem_reconciling {table : String} {schema : Schema} :
    ∀ q ∈ reconciling table schema, q.Configures := by
  rw [reconciling, List.forall_mem_cons]
  refine ⟨trivial, ?_⟩
  intro q hq
  obtain ⟨f, -, hf⟩ := List.mem_filterMap.1 hq
  obtain ⟨t, -, rfl⟩ := Option.map_eq_some_iff.1 hf
  trivial

theorem asks_kind (h : ∀ q ∈ op.commands ds.dialect, q.IsTyped → kind q) :
    (op.dialogue ds).Asks (Sends ds.dialect kind) := by
  apply (asks_dialogue ds op).mono
  rintro c ⟨q, hq, htyped, hvalues⟩
  exact ⟨q, h q hq htyped, hvalues⟩

theorem isSent_of_configures (h : q.Configures) (htyped : q.IsTyped) : q.IsSent := by
  cases q with
  | createTable | listColumns => trivial
  | addColumn => exact htyped
  | insert | select | echo => exact h.elim

theorem asks_schema (hop : op.ConcernsSchema) :
    (op.dialogue ds).Asks (Sends ds.dialect Sql.Command.IsSent) := by
  have hall : ∀ q ∈ op.commands ds.dialect, q.Configures := by
    cases op with
    | ensureTable | loadExternalSchema => exact List.forall_mem_singleton.2 trivial
    | reconcileColumns table schema => exact configures_of_mem_reconciling
    | configureTable m =>
      rw [commands]
      split
      · exact List.forall_mem_singleton.2 trivial
      · exact List.forall_mem_cons.2 ⟨trivial, configures_of_mem_reconciling⟩
    | insertRecord | selectRows => exact hop.elim
  apply asks_kind
  intro q hq htyped
  exact isSent_of_configures (hall q hq) htyped

theorem asks_rows (hop : ¬op.ConcernsSchema) :
    (op.dialogue ds).Asks (Sends ds.dialect fun q => q.IsSent ∧ q.KeepsLayout) := by
  cases op with
  | ensureTable | reconcileColumns | configureTable | loadExternalSchema => exact absurd trivial hop
  | insertRecord m r =>
    by_cases hr : r.isEmpty
    · show (ds.insertRecord m r).Asks _
      rw [Datasource.insertRecord_of_empty hr]
      trivial
    · apply asks_kind
      have hnames : r.names ≠ [] := by simpa [Record.names, Record.isEmpty] using hr
      intro q hq _
      rcases List.mem_pair.1 hq with rfl | rfl
      · exact ⟨hnames, trivial⟩
      · exact ⟨trivial, trivial⟩
  | selectRows table c =>
    apply asks_kind
    intro q hq _
    rw [commands] at hq
    split at hq
    · obtain rfl := List.mem_singleton.1 hq
      exact ⟨trivial, trivial⟩
    · cases hq

theorem asks_sent (op : Operation) :
    (op.dialogue ds).Asks (Sends ds.dialect Sql.Command.IsSent) := by
  by_cases hop : op.ConcernsSchema
  · exact asks_schema hop
  · apply (asks_rows hop).mono
    rintro c ⟨q, hq, hvalues⟩
    exact ⟨q, hq.1, hvalues⟩

theorem asks_sent_dry (hd : ds.dryRun = true) (op : Operation) :
    (op.dialogue ds).Asks (Sends ds.dialect fun q => q.IsSent ∧ q.KeepsLayout) := by
  by_cases hop : op.ConcernsSchema
  · apply (asks_dry ds hd hop).mono
    rintro c rfl
    exact ⟨.listColumns, ⟨trivial, trivial⟩, [.text op.table], rfl, rfl⟩
  · exact asks_rows hop

end Operation

/-- What a datasource can be asked for. -/
inductive Request where
  | operation (op : Operation)
  /-- The columns of a table. -/
  | tableInfo (table : String)

/-- A request, and whether it is made in a dry run. -/
structure Step where
  dryRun : Bool
  request : Request

/-- What is said to the database for the sake of a request, without what comes of it. -/
def Request.dialogue (ds : Datasource) : Request → Dialogue Unit
  | operation op => (op.dialogue ds).bind fun _ => .done ()
  | tableInfo table => Dialogue.bind (ds.tableInfo table) fun _ => .done ()

/-- Requests one after the other, however each of them ends. -/
def session (d : Dialect) : List Step → Dialogue Unit
  | [] => .done ()
  | step :: rest => (step.request.dialogue ⟨d, step.dryRun⟩).bind fun _ => session d rest

theorem asks_session {kind : Sql.Command → Prop} {steps : List Step}
    (h : ∀ step ∈ steps, (step.request.dialogue ⟨d, step.dryRun⟩).Asks (Sends d kind)) :
    (session d steps).Asks (Sends d kind) := by
  induction steps with
  | nil => trivial
  | cons step rest ih =>
    rw [List.forall_mem_cons] at h
    exact h.1.bind fun _ => ih h.2

theorem asks_tableInfo_kind {ds : Datasource} {table : String} {kind : Sql.Command → Prop}
    (h : kind .listColumns) : Dialogue.Asks (Sends ds.dialect kind) (ds.tableInfo table) := by
  rw [Datasource.tableInfo_eq]
  exact ⟨⟨.listColumns, h, [.text table], rfl, rfl⟩, fun _ => trivial⟩

theorem Request.asks_sent (ds : Datasource) (r : Request) :
    (r.dialogue ds).Asks (Sends ds.dialect Sql.Command.IsSent) := by
  cases r with
  | operation op => exact (Operation.asks_sent op).bind fun _ => trivial
  | tableInfo table => exact (asks_tableInfo_kind trivial).bind fun _ => trivial

theorem Request.asks_sent_dry (ds : Datasource) (hd : ds.dryRun = true) (r : Request) :
    (r.dialogue ds).Asks (Sends ds.dialect fun q => q.IsSent ∧ q.KeepsLayout) := by
  cases r with
  | operation op => exact (Operation.asks_sent_dry hd op).bind fun _ => trivial
  | tableInfo table => exact (asks_tableInfo_kind ⟨trivial, trivial⟩).bind fun _ => trivial

/-! ## Servers -/

section Servers

variable {σ : Type} {view : σ → Database} {answer : (c : Call) → σ → c.Reply × σ}

/-- The exchange is an acknowledged insertion into the table of a name. -/
def Exchange.insertsInto (d : Dialect) (rule : NameRule) (name : String) (e : Exchange) : Bool :=
  e.acknowledged && match Sql.Command.read? d e.call.statement.sql with
    | some (.insert table _) => rule.same table name
    | _ => false

theorem Exchange.insertsInto_of_refused {rule : NameRule} {name : String} {e : Exchange}
    (h : e.acknowledged = false) : e.insertsInto d rule name = false := by
  rw [insertsInto, h, Bool.false_and]

theorem Exchange.insertsInto_eq {rule : NameRule} {name : String} {e : Exchange} {vs : List Value}
    (h : e.acknowledged = true) (hq : q.IsSent) (hc : e.call.statement = .ofCommand d q vs) :
    (if e.insertsInto d rule name then 1 else 0) = q.adds rule name := by
  have hread : Sql.Command.read? d e.call.statement.sql = some q := by
    rw [hc]
    exact hq.read?_text
  rw [insertsInto, h, Bool.true_and, hread]
  cases q with
  | insert table columns => rfl
  | createTable | addColumn | listColumns | select | echo => rfl

/-- The number of insertions into the table of a name that were acknowledged. -/
def insertions (d : Dialect) (rule : NameRule) (es : List Exchange) (name : String) : Nat :=
  es.countP (Exchange.insertsInto d rule name)

namespace Serves

variable (h : Serves view answer)

include h

theorem step {s : σ} {c : Call} {kind : Sql.Command → Prop} (hkind : ∀ q, kind q → q.IsSent)
    (hc : Sends (view s).dialect kind c) :
    (view s).Grows (insertions (view s).dialect (view s).rule [⟨c, (answer c s).1⟩])
        (view (answer c s).2) ∧
      ((∀ q, kind q → q.KeepsLayout) → (view (answer c s).2).layout = (view s).layout) := by
  obtain ⟨q, hq, vs, hstatement, hvalues⟩ := hc
  have hserved := h s c q vs (hkind q hq) hstatement hvalues
  cases hreply : (Exchange.mk c (answer c s).1).acknowledged with
  | true =>
    rw [if_pos hreply] at hserved
    have hcount : insertions (view s).dialect (view s).rule [⟨c, (answer c s).1⟩] =
        fun name => q.adds (view s).rule name := by
      funext name
      rw [insertions, List.countP_singleton]
      exact Exchange.insertsInto_eq hreply (hkind q hq) hstatement
    rw [hcount]
    exact ⟨hserved.grows, fun hkeeps => hserved.layout_eq (hkeeps q hq)⟩
  | false =>
    rw [if_neg (by simp [hreply])] at hserved
    have hcount : insertions (view s).dialect (view s).rule [⟨c, (answer c s).1⟩] = fun _ => 0 := by
      funext name
      rw [insertions, List.countP_singleton, Exchange.insertsInto_of_refused hreply]
      rfl
    rw [hcount, hserved]
    exact ⟨.refl _, fun _ => rfl⟩

/-- What a dialogue makes of the database, if it sends nothing but what a datasource sends. -/
theorem run {α : Type} {s : σ} {kind : Sql.Command → Prop} (hkind : ∀ q, kind q → q.IsSent)
    (x : Dialogue α) (hx : x.Asks (Sends (view s).dialect kind)) :
    (view s).Grows (insertions (view s).dialect (view s).rule (x.transcript answer s))
        (view (x.run answer s).2) ∧
      ((∀ q, kind q → q.KeepsLayout) → (view (x.run answer s).2).layout = (view s).layout) := by
  induction x generalizing s with
  | done a => exact ⟨.refl _, fun _ => rfl⟩
  | call c next ih =>
    obtain ⟨hfirst, hlayout⟩ := h.step hkind hx.1
    have hnext : (next (answer c s).1).Asks (Sends (view (answer c s).2).dialect kind) := by
      rw [hfirst.dialect]
      exact hx.2 _
    obtain ⟨hrest, hlayouts⟩ := ih _ hnext
    rw [hfirst.dialect, hfirst.rule] at hrest
    constructor
    · have hsum : insertions (view s).dialect (view s).rule ((Dialogue.call c next).transcript answer s) =
          fun name => insertions (view s).dialect (view s).rule [⟨c, (answer c s).1⟩] name +
            insertions (view s).dialect (view s).rule
              ((next (answer c s).1).transcript answer (answer c s).2) name := by
        funext name
        rw [Dialogue.transcript_call, ← List.singleton_append]
        exact List.countP_append
      rw [hsum]
      exact hfirst.trans hrest
    · intro hkeeps
      exact (hlayouts hkeeps).trans (hlayout hkeeps)

/-- Whatever a datasource is asked to do, one thing after another: every table keeps its columns, behind
which come new ones, and its rows, which hold null in the new columns; it has a row more for each
insertion into it that was acknowledged; and where every request is made in a dry run, no table and no
column is new. -/
theorem session_only_adds (s : σ) (steps : List Step) :
    let run := session (view s).dialect steps
    let final := view (run.run answer s).2
    (view s).Grows (insertions (view s).dialect (view s).rule (run.transcript answer s)) final ∧
      ((∀ step ∈ steps, step.dryRun = true) → final.layout = (view s).layout) := by
  intro run final
  constructor
  · have hasks : run.Asks (Sends (view s).dialect Sql.Command.IsSent) :=
      asks_session fun step _ => step.request.asks_sent ⟨_, step.dryRun⟩
    exact (h.run (fun _ hq => hq) run hasks).1
  · intro hdry
    have hasks : run.Asks (Sends (view s).dialect fun q => q.IsSent ∧ q.KeepsLayout) :=
      asks_session fun step hstep => step.request.asks_sent_dry ⟨_, step.dryRun⟩ (hdry step hstep)
    exact (h.run (fun _ hq => hq.1) run hasks).2 fun _ hq => hq.2

end Serves

end Servers

/-! ## A database that refuses calls -/

namespace Database

/-- Answers a call in a database that converts values, unless the call is lost. When nothing is said of a
call, it is answered. -/
def answerUnless (a : Affinity) (c : Call) (s : Database × List (Option Error)) :
    c.Reply × Database × List (Option Error) :=
  match s.2.headD none with
  | some e => (c.failed e, s.1, s.2.tail)
  | none => ((answerBy a c s.1).1, (answerBy a c s.1).2, s.2.tail)

theorem serves_answerUnless (a : Affinity) : Serves Prod.fst (answerUnless a) := by
  rintro ⟨db, faults⟩ c q vs hq hc hvs
  unfold answerUnless
  cases faults.headD none with
  | some e => cases c <;> rfl
  | none => exact serves_answerBy a db c q vs hq hc hvs

/-- A column is added, and the insertion of a row is lost and made again; where all of it happens in a dry
run, no column is added. -/
theorem session_only_adds_people :
    let m : Model := { table := "People", schema := ⟨[⟨"name", ⟨"string", {}⟩⟩]⟩ }
    let insertion : Operation := .insertRecord m (.ofList [("_id", .int 7)])
    let steps : List Step := [⟨false, .operation (.configureTable m)⟩,
      ⟨false, .operation insertion⟩, ⟨true, .operation insertion⟩]
    let rehearsal : List Step := [⟨true, .operation (.configureTable m)⟩, ⟨true, .operation insertion⟩]
    let people := Table.fresh "people" [⟨"_id", "VARCHAR(24)"⟩] (some "_id")
    let start : Database × List (Option Error) :=
      (⟨.sqlite, .ignoringCase, [people.addRow fun _ => .text "a"]⟩,
        [none, none, none, some (.connectivity "gone")])
    (∃ added, added "people" = 1 ∧
      start.1.Grows added ((session start.1.dialect steps).run (answerUnless .digits) start).2.1) ∧
      layout ((session start.1.dialect rehearsal).run (answerUnless .digits) start).2.1 =
        layout start.1 := by
  intro m insertion steps rehearsal people start
  have hserves := serves_answerUnless .digits
  constructor
  · refine ⟨insertions start.1.dialect start.1.rule
      ((session start.1.dialect steps).transcript (answerUnless .digits) start), ?_,
      (hserves.session_only_adds start steps).1⟩
    decide +kernel
  · have hdry : ∀ step ∈ rehearsal, step.dryRun = true := by simp [rehearsal]
    exact (hserves.session_only_adds start rehearsal).2 hdry

end Database

end SqlAdapter
