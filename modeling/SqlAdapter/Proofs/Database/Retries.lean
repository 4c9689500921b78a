import SqlAdapter.Proofs.Database.Acceptance

/-!
# Retries

Configuring a table over a connection that can fail at any call, before the call takes effect or after.
An attempt that fails has added the columns of the first fields that lack one, and a later attempt goes
on from there. Main statement: whatever failed before, an attempt that succeeds leaves the database as
one run without failures would have left it.
-/

set_option autoImplicit false

namespace SqlAdapter

/-- The reply to a call that has failed. -/
def Call.failed (e : Error) : (c : Call) → c.Reply
  | execute _ => .error e
  | query _ => .error e

/-- What becomes of a call on its way to a server and back. -/
inductive Delivery where
  | answered
  /-- The call does not reach the server. -/
  | lost (e : Error)
  /-- The call takes effect, but its answer does not come back. -/
  | unacknowledged (e : Error)

/-- The state of a server and what becomes of the next calls. When nothing is said of a call, it is
answered. -/
structure Connection (σ : Type) where
  state : σ
  deliveries : List Delivery

def Delivery.answer {σ : Type} (answer : (c : Call) → σ → c.Reply × σ) (c : Call) (s : σ) :
    Delivery → c.Reply × σ
  | answered => answer c s
  | lost e => (c.failed e, s)
  | unacknowledged e => (c.failed e, (answer c s).2)

def Connection.answer {σ : Type} (answer : (c : Call) → σ → c.Reply × σ) (c : Call)
    (k : Connection σ) : c.Reply × Connection σ :=
  let r := (k.deliveries.headD .answered).answer answer c k.state
  (r.1, ⟨r.2, k.deliveries.tail⟩)

/-! ## Calls over a connection -/

namespace Connection

variable {σ : Type} {view : σ → Database} {answer : (c : Call) → σ → c.Reply × σ}
  {k k' : Connection σ} {ds : Datasource} {d : Dialect} {table : String} {f : Field} {fs : List Field}

/-- A connection on which every call is answered is as good as the server. -/
theorem run_answered {α : Type} (x : Dialogue α) (s : σ) :
    x.run (Connection.answer answer) ⟨s, []⟩ = ((x.run answer s).1, ⟨(x.run answer s).2, []⟩) := by
  induction x generalizing s with
  | done a => rfl
  | call c next ih => exact ih _ _

/-- A call comes to nothing, or to what the server makes of it, whether or not this is reported. -/
theorem answer_cases {c : Call} {reply : c.Reply} (h : Connection.answer answer c k = (reply, k')) :
    (∃ e, reply = c.failed e ∧ (k'.state = k.state ∨ k'.state = (answer c k.state).2)) ∨
    answer c k.state = (reply, k'.state) := by
  unfold Connection.answer at h
  obtain ⟨rfl, rfl⟩ := Prod.mk.inj h
  cases k.deliveries.headD .answered with
  | answered => exact .inr rfl
  | lost e => exact .inl ⟨e, rfl, .inl rfl⟩
  | unacknowledged e => exact .inl ⟨e, rfl, .inr rfl⟩

/-- What a change comes to over a connection, when the server refuses it without effect or makes `P` hold. -/
theorem answer_execute {st : Statement} {P : Database → Prop} {reply : Except Error Ack}
    (hserver : ∀ reply s', answer (.execute st) k.state = (reply, s') →
      (∃ e, reply = .error e) ∧ view s' = view k.state ∨ P (view s'))
    (hreply : Connection.answer answer (.execute st) k = (reply, k')) :
    (∃ e, reply = .error e) ∧ view k'.state = view k.state ∨ P (view k'.state) := by
  rcases answer_cases hreply with ⟨e, he, hsame | hstate⟩ | hanswer
  · exact .inl ⟨⟨e, he⟩, congrArg view hsame⟩
  · rw [hstate]
    exact (hserver _ _ rfl).imp_left fun hrefused => ⟨⟨e, he⟩, hrefused.2⟩
  · exact hserver _ _ hanswer

variable (h : Serves view answer)

include h

theorem answer_createTable {key : String} {reply : Except Error Ack} (hd : (view k.state).dialect = d)
    (hreply : Connection.answer answer (.execute (.createTable d table key)) k = (reply, k')) :
    (∃ e, reply = .error e) ∧ view k'.state = view k.state ∨
      view k'.state = (view k.state).createTable table key := by
  apply answer_execute (P := (· = (view k.state).createTable table key)) _ hreply
  intro reply s' hanswer
  exact (h.of_createTable hd hanswer).imp_right And.right

theorem answer_listColumns (hreports : ReportsColumns view answer) (hd : (view k.state).dialect = d)
    {reply : Except Error (List Record)}
    (hreply : Connection.answer answer (.query (.listColumns d table)) k = (reply, k')) :
    view k'.state = view k.state ∧ ∀ live, reply.bind (LiveSchema.ofRows table) = .ok live →
      List.Forall₂ Column.Alike live.columns ((view k.state).columns table) := by
  obtain ⟨rows, live, s', hlisted, hlive, halike, hsame⟩ := h.listed hd hreports table
  rcases answer_cases hreply with ⟨e, rfl, hstate⟩ | hserver
  · refine ⟨?_, by simp [Call.failed, Except.bind]⟩
    rw [hlisted] at hstate
    rcases hstate with hstate | hstate
    · rw [hstate]
    · rw [hstate, hsame]
  · rw [hlisted] at hserver
    obtain ⟨rfl, rfl⟩ := Prod.mk.inj hserver
    refine ⟨hsame, ?_⟩
    intro live' hlive'
    obtain rfl := Except.ok.inj (hlive.symm.trans hlive')
    exact halike

/-- An addition that fails has left the database as it was or has added the column. -/
theorem answer_addition {reply : Except Error Ack} (hrefuses : RefusesTaken view answer)
    (hready : (view k.state).Ready d table)
    (hf : (Datatype.parse? f.descriptor.datatype).isSome)
    (hreply : Connection.answer answer (.execute (f.addition d table)) k = (reply, k')) :
    (∃ e, reply = .error e) ∧ view k'.state = view k.state ∨
      (view k.state).Free table f.name ∧
        view k'.state = (view k.state).update table (·.addColumn f.column) := by
  apply answer_execute (P := fun db => (view k.state).Free table f.name ∧
    db = (view k.state).update table (·.addColumn f.column)) _ hreply
  intro reply s' hanswer
  refine (h.of_addition hready.dialect hf hanswer).imp_right fun ⟨⟨ack, hack⟩, hadded⟩ => ⟨?_, hadded⟩
  by_contra htaken
  obtain ⟨e, last, hrefused, -⟩ := h.refused hready hf hrefuses htaken
  rw [hack, hrefused] at hanswer
  cases hanswer

theorem run_addColumns {result : Except Error (List String)} (hrefuses : RefusesTaken view answer)
    (hdry : ds.dryRun = false) (hready : (view k.state).Ready ds.dialect table)
    (hrun : Dialogue.run (Connection.answer answer) (ds.addColumns table fs) k = (result, k')) :
    ∃ done rest, fs = done ++ rest ∧ (view k.state).Accepts table done ∧
      view k'.state = (view k.state).addFields table done ∧
      (∀ texts, result = .ok texts → rest = []) := by
  induction fs generalizing k result with
  | nil =>
    obtain ⟨rfl, rfl⟩ := Prod.mk.inj hrun
    exact ⟨[], [], rfl, trivial, rfl, fun _ _ => rfl⟩
  | cons f fs ih =>
    cases hparse : Datatype.parse? f.descriptor.datatype with
    | none =>
      rw [Datasource.addColumns_unknown hparse, Dialogue.run_done] at hrun
      obtain ⟨rfl, rfl⟩ := Prod.mk.inj hrun
      exact ⟨[], f :: fs, rfl, trivial, rfl, by simp⟩
    | some t =>
      have hf : (Datatype.parse? f.descriptor.datatype).isSome := by rw [hparse]; rfl
      rw [Datasource.addColumns_call hdry hf, Dialogue.run_call] at hrun
      obtain ⟨⟨reply, next⟩, hnext⟩ :
          ∃ r, Connection.answer answer (.execute (f.addition ds.dialect table)) k = r := ⟨_, rfl⟩
      rw [hnext] at hrun
      rcases answer_addition h hrefuses hready hf hnext with ⟨⟨e, rfl⟩, hsame⟩ | ⟨hfree, hadded⟩
      · obtain ⟨rfl, rfl⟩ := Prod.mk.inj hrun
        exact ⟨[], f :: fs, rfl, trivial, hsame, by simp⟩
      · cases reply with
        | error e =>
          obtain ⟨rfl, rfl⟩ := Prod.mk.inj hrun
          exact ⟨[f], fs, rfl, ⟨hf, hfree, trivial⟩, hadded, by simp⟩
        | ok ack =>
          obtain ⟨⟨others, last⟩, hlast⟩ :
              ∃ r, Dialogue.run (Connection.answer answer) (ds.addColumns table fs) next = r :=
            ⟨_, rfl⟩
          dsimp only at hrun
          rw [Dialogue.run_bind, hlast, Dialogue.run_done] at hrun
          obtain ⟨rfl, rfl⟩ := Prod.mk.inj hrun
          have hthen := hready.addColumn f.column
          rw [← hadded] at hthen
          obtain ⟨done, rest, rfl, hdone, hstate, hall⟩ := ih hthen hlast
          rw [hadded] at hdone hstate
          refine ⟨f :: done, rest, rfl, ⟨hf, hfree, hdone⟩, hstate, ?_⟩
          intro texts htexts
          cases others with
          | error e => cases htexts
          | ok l => exact hall l rfl

end Connection

/-! ## What has been done -/

namespace Database

variable {m : Model} {origin db : Database} {added todo : List Field}

/-- Of the fields that lacked a column when the table was created, the first have theirs. -/
structure Begun (m : Model) (origin db : Database) (added todo : List Field) : Prop where
  state : db = (origin.createTable m.table m.primaryKey).addFields m.table added
  fields : Datasource.lacking m.schema
    ⟨(origin.createTable m.table m.primaryKey).columns m.table⟩ = added ++ todo
  accepted : (origin.createTable m.table m.primaryKey).Accepts m.table added

theorem begun_createTable (m : Model) (origin : Database) :
    Begun m origin (origin.createTable m.table m.primaryKey) []
      (Datasource.lacking m.schema
        ⟨(origin.createTable m.table m.primaryKey).columns m.table⟩) :=
  ⟨rfl, rfl, trivial⟩

namespace Begun

variable (h : Begun m origin db added todo)

include h

theorem ready {d : Dialect} (hd : origin.dialect = d) : db.Ready d m.table := by
  rw [h.state]
  exact (ready_createTable hd).addFields added

theorem lacking (hn : m.schema.names.Nodup) :
    Datasource.lacking m.schema ⟨db.columns m.table⟩ = todo := by
  rw [h.state, columns_addFields table?_createTable]
  exact Datasource.lacking_append hn h.fields

theorem addFields {done rest : List Field} (htodo : todo = done ++ rest)
    (hdone : db.Accepts m.table done) :
    Begun m origin (db.addFields m.table done) (added ++ done) rest where
  state := by
    rw [h.state, Database.addFields, Database.addFields, Database.addFields, List.foldl_append]
  fields := by rw [h.fields, htodo, List.append_assoc]
  accepted := by
    rw [h.state] at hdone
    exact accepts_append.2 ⟨h.accepted, hdone⟩

end Begun

/-- Nothing has happened yet, or the work has begun. -/
def Partway (m : Model) (origin db : Database) : Prop :=
  db = origin ∨ ∃ added todo, Begun m origin db added todo

theorem Partway.createTable (h : Partway m origin db) :
    ∃ added todo, Begun m origin (db.createTable m.table m.primaryKey) added todo := by
  rcases h with rfl | ⟨added, todo, h⟩
  · exact ⟨_, _, begun_createTable m db⟩
  · exact ⟨added, todo, by rwa [createTable_eq_self (h.ready rfl).there]⟩

theorem Partway.dialect_eq (h : Partway m origin db) : db.dialect = origin.dialect := by
  rcases h with rfl | ⟨added, todo, h⟩
  · rfl
  · exact (h.ready rfl).dialect

theorem Partway.rule_eq (h : Partway m origin db) : db.rule = origin.rule := by
  rcases h with rfl | ⟨added, todo, h⟩
  · rfl
  · rw [h.state, rule_addFields, rule_createTable]

end Database

/-! ## Attempts -/

section

variable {σ : Type} (answer : (c : Call) → σ → c.Reply × σ)

/-- An attempt to configure a table over a connection: its result and what it leaves. -/
def attempt (ds : Datasource) (m : Model) (deliveries : List Delivery) (s : σ) :
    Except Error Report × σ :=
  let r := (ds.configureTable m).run (Connection.answer answer) ⟨s, deliveries⟩
  (r.1.1, r.2.state)

/-- What attempts leave that are made one after the other. -/
def attempts (ds : Datasource) (m : Model) (s : σ) (l : List (List Delivery)) : σ :=
  l.foldl (fun s deliveries => (attempt answer ds m deliveries s).2) s

end

namespace Serves

variable {σ : Type} {view : σ → Database} {answer : (c : Call) → σ → c.Reply × σ} {s : σ}
  {origin : Database} {ds : Datasource} {m : Model} {added todo : List Field}
  (h : Serves view answer)

include h

theorem reconcile_begun {k k' : Connection σ} {result : Except Error Report}
    (hreports : ReportsColumns view answer) (hrefuses : RefusesTaken view answer)
    (hdry : ds.dryRun = false) (hdialect : origin.dialect = ds.dialect) (hn : m.schema.names.Nodup)
    (hbegun : Database.Begun m origin (view k.state) added todo)
    (hrun : Dialogue.run (Connection.answer answer) (ds.reconcileColumns m.table m.schema) k =
      (result, k')) :
    ∃ added todo, Database.Begun m origin (view k'.state) added todo ∧
      ∀ report, result = .ok report → todo = [] := by
  have hd : (view k.state).dialect = ds.dialect := (hbegun.ready hdialect).dialect
  rw [Datasource.reconcileColumns_eq, Dialogue.run_call] at hrun
  obtain ⟨⟨reply, next⟩, hnext⟩ :
      ∃ r, Connection.answer answer (.query (.listColumns ds.dialect m.table)) k = r := ⟨_, rfl⟩
  obtain ⟨hview, halike⟩ := Connection.answer_listColumns h hreports hd hnext
  rw [hnext] at hrun
  dsimp only at hrun
  cases hlisted : reply.bind (LiveSchema.ofRows m.table) with
  | error e =>
    -- the columns are not known, and listing them has changed nothing
    rw [hlisted, Dialogue.run_done] at hrun
    obtain ⟨rfl, rfl⟩ := Prod.mk.inj hrun
    exact ⟨added, todo, hview ▸ hbegun, by simp⟩
  | ok live =>
    obtain ⟨⟨others, last⟩, hlast⟩ :
        ∃ r, Dialogue.run (Connection.answer answer) (ds.addColumns m.table todo) next = r := ⟨_, rfl⟩
    rw [hlisted] at hrun
    dsimp only at hrun
    rw [Datasource.lacking_eq_of_alike (halike live hlisted), hbegun.lacking hn, Dialogue.run_bind,
      hlast, Dialogue.run_done] at hrun
    obtain ⟨rfl, rfl⟩ := Prod.mk.inj hrun
    rw [← hview] at hbegun
    obtain ⟨done, rest, htodo, hdone, hstate, hall⟩ :=
      Connection.run_addColumns h hrefuses hdry (hbegun.ready hdialect) hlast
    refine ⟨added ++ done, rest, ?_, ?_⟩
    · rw [hstate]
      exact hbegun.addFields htodo hdone
    · intro report hreport
      cases others with
      | error e => cases hreport
      | ok texts => exact hall texts rfl

section

variable (hreports : ReportsColumns view answer) (hrefuses : RefusesTaken view answer)
  (hdry : ds.dryRun = false) (hdialect : origin.dialect = ds.dialect) (hm : m.isExternal = false)
  (hn : m.schema.names.Nodup)

include hreports hrefuses hdry hdialect hm hn

/-- An attempt goes on from where the work stands, and comes to its end if it succeeds. -/
theorem partway_attempt (hpart : Database.Partway m origin (view s)) (deliveries : List Delivery) :
    Database.Partway m origin (view (attempt answer ds m deliveries s).2) ∧
      ∀ report, (attempt answer ds m deliveries s).1 = .ok report →
        ∃ added, Database.Begun m origin (view (attempt answer ds m deliveries s).2) added [] := by
  obtain ⟨added, todo, hcreated⟩ := hpart.createTable
  obtain ⟨⟨reply, next⟩, hnext⟩ : ∃ r, Connection.answer answer
      (.execute (.createTable ds.dialect m.table m.primaryKey)) ⟨s, deliveries⟩ = r := ⟨_, rfl⟩
  have hd : (view s).dialect = ds.dialect := hpart.dialect_eq.trans hdialect
  unfold attempt
  rw [Datasource.configureTable_eq hm, Datasource.change_eq hdry, Dialogue.call_bind,
    Dialogue.run_call, hnext]
  have hbegun : (∃ e, reply = .error e) ∧ view next.state = view s ∨
      Database.Begun m origin (view next.state) added todo := by
    refine (Connection.answer_createTable h hd hnext).imp_right fun htable => ?_
    rw [htable]
    exact hcreated
  cases reply with
  | error e =>
    refine ⟨?_, by simp⟩
    rcases hbegun with ⟨-, hsame⟩ | hbegun
    · show Database.Partway m origin (view next.state)
      rw [hsame]
      exact hpart
    · exact .inr ⟨added, todo, hbegun⟩
  | ok ack =>
    replace hbegun : Database.Begun m origin (view next.state) added todo := by
      simpa using hbegun
    obtain ⟨⟨result, last⟩, hlast⟩ : ∃ r, Dialogue.run (Connection.answer answer)
        (ds.reconcileColumns m.table m.schema) next = r := ⟨_, rfl⟩
    obtain ⟨added, todo, hreached, hall⟩ :=
      h.reconcile_begun hreports hrefuses hdry hdialect hn hbegun hlast
    simp only [Dialogue.done_bind, Dialogue.run_bind, hlast, Dialogue.run_done]
    refine ⟨.inr ⟨added, todo, hreached⟩, ?_⟩
    intro report hreport
    cases result with
    | error e => cases hreport
    | ok r =>
      obtain rfl := hall r rfl
      exact ⟨added, hreached⟩

theorem partway_attempts (hpart : Database.Partway m origin (view s)) (l : List (List Delivery)) :
    Database.Partway m origin (view (attempts answer ds m s l)) := by
  induction l generalizing s with
  | nil => exact hpart
  | cons deliveries l ih =>
    exact ih (h.partway_attempt hreports hrefuses hdry hdialect hm hn hpart deliveries).1

end

section

variable (hreports : ReportsColumns view answer) (hdry : ds.dryRun = true)
  (hd : (view s).dialect = ds.dialect) (hm : m.isExternal = false)

include hreports hdry hd hm

/-- In a dry run the columns are listed at most, and an attempt that succeeds has listed them. -/
theorem attempt_dry (deliveries : List Delivery) :
    view (attempt answer ds m deliveries s).2 = view s ∧
      ∀ report, (attempt answer ds m deliveries s).1 = .ok report →
        ((ds.configureTable m).run answer s).1.1 = .ok report := by
  obtain ⟨hplan, -⟩ := h.run_configureTable_plan hreports hdry hd hm
  obtain ⟨⟨reply, next⟩, hnext⟩ : ∃ r, Connection.answer answer
      (.query (.listColumns ds.dialect m.table)) ⟨s, deliveries⟩ = r := ⟨_, rfl⟩
  obtain ⟨hview, halike⟩ := Connection.answer_listColumns h hreports hd hnext
  unfold attempt
  rw [hplan, Datasource.configureTable_plan hdry hm, Dialogue.run_call, hnext]
  dsimp only
  cases hlisted : reply.bind (LiveSchema.ofRows m.table) with
  | error e => exact ⟨hview, by simp⟩
  | ok live =>
    simp only [Dialogue.run_done, Datasource.lacking_eq_of_alike (halike live hlisted)]
    exact ⟨hview, fun report hreport => hreport⟩

theorem attempts_dry (l : List (List Delivery)) : view (attempts answer ds m s l) = view s := by
  induction l generalizing s with
  | nil => rfl
  | cons deliveries l ih =>
    have hfirst := (h.attempt_dry hreports hdry hd hm deliveries).1
    rw [← hfirst] at hd ⊢
    exact ih hd

end

/-- However many attempts to configure a table came before, and whatever call failed in each of them,
before it took effect or after: an attempt that succeeds leaves the database as a single run without
failures would have left it, and that run would have succeeded too. -/
theorem retries_converge {report : Report} (hreports : ReportsColumns view answer)
    (hwilling : Willing view answer) (hrefuses : RefusesTaken view answer)
    (hd : (view s).dialect = ds.dialect) (hm : m.isExternal = false) (hn : m.schema.names.Nodup)
    (earlier : List (List Delivery)) (last : List Delivery)
    (hok : (attempt answer ds m last (attempts answer ds m s earlier)).1 = .ok report) :
    view (attempt answer ds m last (attempts answer ds m s earlier)).2 =
        view ((ds.configureTable m).run answer s).2 ∧
      ∃ report, ((ds.configureTable m).run answer s).1.1 = .ok report := by
  cases hdry : ds.dryRun with
  | true =>
    have hsame := h.attempts_dry hreports hdry hd hm earlier
    have hd' : (view (attempts answer ds m s earlier)).dialect = ds.dialect := by rw [hsame, hd]
    obtain ⟨hview, hrun⟩ := h.attempt_dry hreports hdry hd' hm last
    obtain ⟨hplan, hstate⟩ := h.run_configureTable_plan hreports hdry hd hm
    obtain ⟨hplan', -⟩ := h.run_configureTable_plan hreports hdry hd' hm
    rw [hsame, ← hplan] at hplan'
    refine ⟨by rw [hview, hsame, hstate], report, ?_⟩
    rw [← hplan']
    exact hrun report hok
  | false =>
    have hpart := h.partway_attempts hreports hrefuses hdry hd hm hn (.inl rfl) earlier
    obtain ⟨added, hdone⟩ :=
      (h.partway_attempt hreports hrefuses hdry hd hm hn hpart last).2 report hok
    have hfields := hdone.fields
    rw [List.append_nil] at hfields
    obtain ⟨hresult, hstate⟩ :=
      h.run_configureTable_accepted hwilling hdry hd hreports hm hfields hdone.accepted
    exact ⟨hdone.state.trans hstate.symm, _, congrArg Prod.fst hresult⟩

theorem attempt_succeeds (hreports : ReportsColumns view answer) (hwilling : Willing view answer)
    (hrefuses : RefusesTaken view answer) (hdry : ds.dryRun = false)
    (hd : (view s).dialect = ds.dialect) (hrule : (view s).rule = .exact) (hm : m.isExternal = false)
    (hn : m.schema.names.Nodup)
    (htyped : ∀ f ∈ m.schema.fields, (Datatype.parse? f.descriptor.datatype).isSome)
    (earlier : List (List Delivery)) :
    ∃ report, (attempt answer ds m [] (attempts answer ds m s earlier)).1 = .ok report := by
  have hpart := h.partway_attempts hreports hrefuses hdry hd hm hn (.inl rfl) earlier
  have hrun := h.run_configureTable_planned hwilling hdry (hpart.dialect_eq.trans hd) hreports hm
    (hpart.rule_eq.trans hrule) hn fun f hf => htyped f (List.mem_filter.1 hf).1
  rw [attempt, Connection.run_answered, hrun.1]
  exact ⟨_, rfl⟩

end Serves

namespace Database

/-- The table is created without an answer, the columns are not listed, and one column is added without
an answer, before an attempt adds the last. -/
theorem retries_converge_people :
    let schema : Schema :=
      ⟨[⟨"name", ⟨"string", {}⟩⟩, ⟨"age", ⟨"number", {}⟩⟩, ⟨"born", ⟨"date", {}⟩⟩]⟩
    let m : Model := { table := "people", schema := schema }
    let ds : Datasource := ⟨.mysql, false⟩
    let db : Database := ⟨.mysql, .exact, []⟩
    let e : Error := .connectivity "gone"
    let earlier : List (List Delivery) := [[.unacknowledged e], [.answered, .lost e],
      [.answered, .answered, .answered, .unacknowledged e], [.lost e]]
    ∃ report, (attempt answer ds m [] (attempts answer ds m db earlier)).1 = .ok report ∧
      (attempt answer ds m [] (attempts answer ds m db earlier)).2 =
        ((ds.configureTable m).run answer db).2 := by
  intro schema m ds db e earlier
  obtain ⟨report, h⟩ :
      ∃ report, (attempt answer ds m [] (attempts answer ds m db earlier)).1 = .ok report :=
    serves_answer.attempt_succeeds reportsColumns_answer willing_answer
      reportsTaken_answer.refusesTaken rfl rfl rfl rfl (by decide) (by decide +kernel) earlier
  exact ⟨report, h, (serves_answer.retries_converge reportsColumns_answer willing_answer
    reportsTaken_answer.refusesTaken rfl rfl (by decide) earlier [] h).1⟩

end Database

end SqlAdapter
