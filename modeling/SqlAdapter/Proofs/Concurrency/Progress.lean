import SqlAdapter.Proofs.Database.Acceptance
import SqlAdapter.Proofs.Interleaving

/-!
# Configuring at the same time

Clients that configure the table of one model on one server, each statement of them on its own. They
may all have listed the columns before the first column is added, so a client can find that the column
it is about to add is there. The columns nevertheless come in the order of the declaration, because the
client that has added the last one has seen all the others come or has added them itself. It is never
refused, and the others fall behind it one by one.
-/

set_option autoImplicit false

namespace SqlAdapter

/-- Client `i` listed the columns of a table, then another client's statement was acknowledged, and then
the same statement was refused to `i`. -/
def Overtaken {ι : Type} (d : Dialect) (table : String) (s : Statement) (source : Error) (i : ι)
    (history : List (ι × Exchange)) : Prop :=
  ∃ (before between after : List (ι × Exchange)) (rows : List Record) (j : ι) (ack : Ack),
    history = before ++ (i, ⟨.query (.listColumns d table), .ok rows⟩) :: between ++
      (i, ⟨.execute s, .error source⟩) :: after ∧
    j ≠ i ∧ (j, ⟨.execute s, .ok ack⟩) ∈ between

theorem Overtaken.append {ι : Type} {d : Dialect} {table : String} {s : Statement} {source : Error}
    {i : ι} {history : List (ι × Exchange)} (h : Overtaken d table s source i history)
    (later : List (ι × Exchange)) : Overtaken d table s source i (history ++ later) := by
  obtain ⟨before, between, after, rows, j, ack, rfl, hj, hm⟩ := h
  refine ⟨before, between, after ++ later, rows, j, ack, ?_, hj, hm⟩
  simp only [List.append_assoc, List.cons_append]

namespace Configuring

/-- The clients of one model: they change the schema, names are the same only if they are equal, and
the declaration of every field has a name of its own and a datatype. -/
structure Setting (ds : Datasource) (m : Model) (db : Database) : Prop where
  changes : ds.dryRun = false
  dialect : db.dialect = ds.dialect
  rule : db.rule = .exact
  internal : m.isExternal = false
  distinct : m.schema.names.Nodup
  typed : ∀ f ∈ m.schema.fields, (Datatype.parse? f.descriptor.datatype).isSome

variable (ds : Datasource) (m : Model)

def create : Statement := .createTable ds.dialect m.table m.primaryKey

/-- How far a client has come. -/
inductive Stage where
  | start
  | created
  /-- It is adding columns and has added some already, with these texts. Others have added those of
  the next fields. -/
  | adding (missed : List Field) (texts : List String)
  /-- The column of the field was there and was refused. -/
  | failed (f : Field) (source : Error)

/-- The stage of a client when another one adds the column of a field. -/
def Stage.overtake (f : Field) : Stage → Stage
  | adding missed texts => adding (missed ++ [f]) texts
  | st => st

/-- What a client does after its last column, or after a refusal. -/
def finish (texts : List String) (r : Except Error (List String)) :
    Dialogue (Except Error Report × Model) :=
  .done (Datasource.reportCreated (create ds m) (r.map fun l => { statements := texts ++ l }), m)

/-- What a client has still to say when these fields have no columns. -/
def Stage.dialogue (todo : List Field) : Stage → Dialogue (Except Error Report × Model)
  | start => ds.configureTable m
  | created => Dialogue.bind (ds.reconcileColumns m.table m.schema) fun r =>
      .done (Datasource.reportCreated (create ds m) r, m)
  | adding missed texts =>
    Dialogue.bind (ds.addColumns m.table (missed ++ todo)) (finish ds m texts)
  | failed f source => .done (.error (.ddl m.table (f.addition ds.dialect m.table).sql source), m)

/-- Client `i` has listed the columns, and others have added those of the fields since. -/
def Missed {ι : Type} (fs : List Field) (i : ι) (history : List (ι × Exchange)) : Prop :=
  ∃ (before between : List (ι × Exchange)) (rows : List Record),
    history = before ++ (i, ⟨.query (.listColumns ds.dialect m.table), .ok rows⟩) :: between ∧
    ∀ f ∈ fs, ∃ (j : ι) (ack : Ack), j ≠ i ∧
      (j, ⟨.execute (f.addition ds.dialect m.table), .ok ack⟩) ∈ between

/-- What the history tells of a client that has come so far. -/
def Stage.Sound {ι : Type} (added : List Field) (i : ι) (history : List (ι × Exchange)) :
    Stage → Prop
  | start | created => True
  | adding missed _ => (∀ f ∈ missed, f ∈ added) ∧ Missed ds m missed i history
  | failed f source => f ∈ added ∧
      Overtaken ds.dialect m.table (f.addition ds.dialect m.table) source i history

/-- The database with the table that the clients create. -/
def origin (db : Database) : Database := db.createTable m.table m.primaryKey

/-- How far the clients have come together: columns were added for the first of the lacking fields,
in their order, and some client has missed none of them. -/
structure Progress {ι σ : Type} (view : σ → Database) (db : Database) (stage : ι → Stage)
    (added todo : List Field) (g : Sessions ι (Except Error Report × Model) σ) : Prop where
  fields : Datasource.lacking m.schema ⟨(origin m db).columns m.table⟩ = added ++ todo
  dialogue : ∀ i, g.dialogue i = (stage i).dialogue ds m todo
  sound : ∀ i, (stage i).Sound ds m added i g.history
  state : view g.state = (origin m db).addFields m.table added ∨
    added = [] ∧ view g.state = db ∧ ∀ i, stage i = .start
  leader : added = [] ∨ ∃ i texts, stage i = .adding [] texts

variable {ds m} {ι σ : Type} {view : σ → Database} {answer : (c : Call) → σ → c.Reply × σ}
  {db : Database} {stage : ι → Stage} {added todo : List Field}
  {g : Sessions ι (Except Error Report × Model) σ} {i : ι} {e : Exchange}
  {history : List (ι × Exchange)}

theorem Missed.append {fs : List Field} (h : Missed ds m fs i history)
    (later : List (ι × Exchange)) : Missed ds m fs i (history ++ later) := by
  obtain ⟨before, between, rows, rfl, hfs⟩ := h
  refine ⟨before, between ++ later, rows, by simp only [List.append_assoc, List.cons_append], ?_⟩
  intro f hf
  obtain ⟨j, ack, hj, hm⟩ := hfs f hf
  exact ⟨j, ack, hj, List.mem_append_left _ hm⟩

theorem Stage.Sound.append {st : Stage} (h : st.Sound ds m added i history)
    (later : List (ι × Exchange)) : st.Sound ds m added i (history ++ later) := by
  cases st with
  | start | created => trivial
  | adding missed texts => exact ⟨h.1, h.2.append later⟩
  | failed f source => exact ⟨h.1, h.2.append later⟩

theorem Stage.dialogue_overtake (f : Field) (st : Stage) :
    (st.overtake f).dialogue ds m todo = st.dialogue ds m (f :: todo) := by
  cases st with
  | adding missed texts => simp only [overtake, dialogue, List.append_assoc, List.singleton_append]
  | start | created | failed f source => rfl

/-- When another client adds the column of a field, it is one more that was missed. -/
theorem Stage.Sound.overtake {st : Stage} {f : Field} {j : ι} {ack : Ack} (hj : j ≠ i)
    (h : st.Sound ds m added i history) :
    (st.overtake f).Sound ds m (added ++ [f]) i
      (history ++ [(j, ⟨.execute (f.addition ds.dialect m.table), .ok ack⟩)]) := by
  cases st with
  | start | created => trivial
  | failed f' source => exact ⟨List.mem_append_left _ h.1, h.2.append _⟩
  | adding missed texts =>
    obtain ⟨hadded, before, between, rows, rfl, hmissed⟩ := h
    refine ⟨?_, before, between ++ [(j, ⟨.execute (f.addition ds.dialect m.table), .ok ack⟩)], rows,
      by simp only [List.append_assoc, List.cons_append], ?_⟩
    · intro x hx
      rcases List.mem_append.1 hx with hx | hx
      · exact List.mem_append_left _ (hadded x hx)
      · exact List.mem_append_right _ hx
    · intro x hx
      rcases List.mem_append.1 hx with hx | hx
      · obtain ⟨k, ack', hk, hm⟩ := hmissed x hx
        exact ⟨k, ack', hk, List.mem_append_left _ hm⟩
      · obtain rfl := List.mem_singleton.1 hx
        exact ⟨j, ack, hj, List.mem_append_right _ (List.mem_singleton_self _)⟩

theorem finish_map_cons (text : String) (texts : List String) (r : Except Error (List String)) :
    finish ds m texts (r.map fun l => text :: l) = finish ds m (texts ++ [text]) r := by
  cases r with
  | error e => rfl
  | ok l => simp [finish, Except.map]

/-! ## One step -/

theorem configureTable_call (hs : Setting ds m db) (todo : List Field) :
    ds.configureTable m = Dialogue.call (.execute (create ds m)) fun
      | .ok _ => Stage.created.dialogue ds m todo
      | .error e => .done (.error (.ddl m.table (create ds m).sql e), m) := by
  rw [Datasource.configureTable_eq hs.internal, Datasource.change_eq hs.changes, Dialogue.call_bind]
  congr 1
  funext r
  cases r <;> rfl

namespace Progress

variable (hs : Setting ds m db) (h : Progress ds m view db stage added todo g)

include hs h in
theorem dialect_state : (view g.state).dialect = ds.dialect := by
  rcases h.state with hstate | ⟨-, hstate, -⟩
  · rw [hstate, Database.dialect_addFields, ← hs.dialect]
    exact Database.dialect_createTable
  · rw [hstate, hs.dialect]

include hs h in
theorem rule_state : (view g.state).rule = .exact := by
  rcases h.state with hstate | ⟨-, hstate, -⟩
  · rw [hstate, Database.rule_addFields, ← hs.rule]
    exact Database.rule_createTable
  · rw [hstate, hs.rule]

include h in
theorem state_eq (hi : stage i ≠ .start) : view g.state = (origin m db).addFields m.table added := by
  rcases h.state with hstate | ⟨-, -, hstart⟩
  · exact hstate
  · exact absurd (hstart i) hi

include hs h in
theorem ready_state (hi : stage i ≠ .start) : (view g.state).Ready ds.dialect m.table := by
  rw [h.state_eq hi]
  exact (Database.ready_createTable hs.dialect).addFields added

include h in
theorem columns_state (hi : stage i ≠ .start) : (view g.state).columns m.table =
    (origin m db).columns m.table ++ added.map Field.column := by
  rw [h.state_eq hi]
  exact Database.columns_addFields Database.table?_createTable

include hs h in
theorem lacking_state (hi : stage i ≠ .start) :
    Datasource.lacking m.schema ⟨(view g.state).columns m.table⟩ = todo := by
  rw [h.columns_state hi]
  exact Datasource.lacking_append hs.distinct h.fields

include hs h in
theorem typed {f : Field} (hf : f ∈ added ++ todo) :
    (Datatype.parse? f.descriptor.datatype).isSome := by
  rw [← h.fields] at hf
  exact hs.typed f (List.mem_filter.1 hf).1

variable [DecidableEq ι]

include h in
/-- A client goes on to another stage and the columns stay as they are. -/
theorem move {st : Stage} {x : Dialogue (Except Error Report × Model)} {new : σ}
    (hi : ∀ texts, stage i ≠ .adding [] texts) (hx : x = st.dialogue ds m todo)
    (hsound : st.Sound ds m added i (g.history ++ [(i, e)]))
    (hnew : view new = (origin m db).addFields m.table added) :
    Progress ds m view db (Function.update stage i st) added todo
      ⟨Function.update g.dialogue i x, new, g.history ++ [(i, e)]⟩ where
  fields := h.fields
  dialogue j := by
    by_cases hj : j = i
    · subst hj
      simp only [Function.update_self]
      exact hx
    · simp only [Function.update_of_ne hj]
      exact h.dialogue j
  sound j := by
    by_cases hj : j = i
    · subst hj
      rw [Function.update_self]
      exact hsound
    · rw [Function.update_of_ne hj]
      exact (h.sound j).append _
  state := .inl hnew
  leader := by
    rcases h.leader with hnone | ⟨j, texts, hj⟩
    · exact .inl hnone
    · have hne : j ≠ i := by
        rintro rfl
        exact hi texts hj
      exact .inr ⟨j, texts, by rw [Function.update_of_ne hne, hj]⟩

variable (hserves : Serves view answer)

include hserves hs h in
theorem step_start (hwilling : Willing view answer) (hi : stage i = .start) :
    Progress ds m view db (Function.update stage i .created) added todo (g.step answer i) := by
  obtain ⟨ack, next, hnext, hview⟩ :=
    hserves.created (h.dialect_state hs) hwilling m.table m.primaryKey
  have hcall := h.dialogue i
  rw [hi, Stage.dialogue, configureTable_call hs todo] at hcall
  rw [Sessions.step_call hcall, create, hnext]
  apply h.move
  · simp [hi]
  · rfl
  · trivial
  · rw [hview]
    rcases h.state with hstate | ⟨rfl, hstate, -⟩
    · rw [hstate]
      apply Database.createTable_eq_self
      rw [Database.table?_addFields]
      exact Database.table?_createTable
    · rw [hstate]
      rfl

include hserves hs h in
theorem step_created (hreports : ReportsColumns view answer) (hi : stage i = .created) :
    Progress ds m view db (Function.update stage i (.adding [] [])) added todo (g.step answer i) := by
  have hne : stage i ≠ .start := by simp [hi]
  obtain ⟨rows, live, next, hnext, hlive, halike, hview⟩ :=
    hserves.listed (h.dialect_state hs) hreports m.table
  have hcall := h.dialogue i
  rw [hi, Stage.dialogue, Datasource.reconcileColumns_eq, Dialogue.call_bind] at hcall
  rw [Sessions.step_call hcall, hnext]
  apply h.move
  · simp [hi]
  · simp only [Except.bind, hlive]
    rw [Datasource.lacking_eq_of_alike halike, h.lacking_state hs hne, Dialogue.bind_assoc]
    rfl
  · exact ⟨by simp, g.history, [], _, rfl, by simp⟩
  · rw [hview]
    exact h.state_eq hne

include hserves hs h in
theorem step_refused (hrefuses : RefusesTaken view answer) {f : Field} {missed : List Field}
    {texts : List String} (hi : stage i = .adding (f :: missed) texts) :
    ∃ source, Progress ds m view db (Function.update stage i (.failed f source)) added todo
      (g.step answer i) := by
  have hne : stage i ≠ .start := by simp [hi]
  have hsound := h.sound i
  rw [hi] at hsound
  obtain ⟨hadded, before, between, rows, hhistory, hmissed⟩ := hsound
  have hf : f ∈ added := hadded f List.mem_cons_self
  have htyped := h.typed hs (List.mem_append_left _ hf)
  have htaken : ¬(view g.state).Free m.table f.name := by
    rw [Database.free_iff_of_exact (h.rule_state hs), h.columns_state hne, List.map_append,
      Field.map_name_map_column]
    simpa using fun _ => List.mem_map_of_mem hf
  obtain ⟨source, next, hnext, hview⟩ :=
    hserves.refused (h.ready_state hs hne) htyped hrefuses htaken
  refine ⟨source, ?_⟩
  have hcall := h.dialogue i
  rw [hi, Stage.dialogue, List.cons_append, Datasource.addColumns_call hs.changes htyped,
    Dialogue.call_bind] at hcall
  rw [Sessions.step_call hcall, hnext]
  apply h.move
  · simp [hi]
  · rfl
  · obtain ⟨j, ack, hj, hm⟩ := hmissed f List.mem_cons_self
    exact ⟨hf, before, between, [], rows, j, ack, by rw [hhistory], hj, hm⟩
  · rw [hview]
    exact h.state_eq hne

include hserves hs in
theorem step_added (hwilling : Willing view answer) {f : Field} {rest : List Field}
    {texts : List String} (h : Progress ds m view db stage added (f :: rest) g)
    (hi : stage i = .adding [] texts) :
    Progress ds m view db (Function.update (fun j => (stage j).overtake f) i
        (.adding [] (texts ++ [(f.addition ds.dialect m.table).sql]))) (added ++ [f]) rest
      (g.step answer i) := by
  have hne : stage i ≠ .start := by simp [hi]
  have hready := h.ready_state hs hne
  have hlacking := h.lacking_state hs hne
  obtain ⟨htyped, hfree, -⟩ := Database.accepts_lacking (h.rule_state hs) hready.there hs.distinct hlacking
    fun f hf => h.typed hs (List.mem_append_right _ hf)
  obtain ⟨ack, next, hnext, hview⟩ := hserves.added hready htyped hwilling hfree
  have hcall := h.dialogue i
  rw [hi, Stage.dialogue, List.nil_append, Datasource.addColumns_call hs.changes htyped,
    Dialogue.call_bind] at hcall
  rw [Sessions.step_call hcall, hnext]
  refine ⟨?_, ?_, ?_, .inl ?_, .inr ⟨i, _, Function.update_self ..⟩⟩
  · rw [h.fields, List.append_assoc, List.singleton_append]
  · intro j
    by_cases hj : j = i
    · subst hj
      simp only [Function.update_self, Dialogue.bind_assoc, Dialogue.done_bind, finish_map_cons]
      rfl
    · simp only [Function.update_of_ne hj]
      rw [h.dialogue j, Stage.dialogue_overtake]
  · intro j
    by_cases hj : j = i
    · subst hj
      have hsound := h.sound j
      rw [hi] at hsound
      simp only [Function.update_self]
      exact ⟨by simp, hsound.2.append _⟩
    · simp only [Function.update_of_ne hj]
      exact (h.sound j).overtake (Ne.symm hj)
  · rw [hview, h.state_eq hne, Database.addFields_concat]

section

variable (hreports : ReportsColumns view answer) (hwilling : Willing view answer)
  (hrefuses : RefusesTaken view answer)

include hserves hs h hreports hwilling hrefuses in
theorem step (i : ι) :
    ∃ stage added todo, Progress ds m view db stage added todo (g.step answer i) := by
  have hdialogue := h.dialogue i
  cases hi : stage i with
  | start => exact ⟨_, _, _, h.step_start hs hserves hwilling hi⟩
  | created => exact ⟨_, _, _, h.step_created hs hserves hreports hi⟩
  | failed f source =>
    rw [hi] at hdialogue
    rw [Sessions.step_done hdialogue]
    exact ⟨_, _, _, h⟩
  | adding missed texts =>
    cases missed with
    | cons f missed =>
      obtain ⟨source, hnext⟩ := h.step_refused hs hserves hrefuses hi
      exact ⟨_, _, _, hnext⟩
    | nil =>
      cases todo with
      | cons f rest => exact ⟨_, _, _, h.step_added hs hserves hwilling hi⟩
      | nil =>
        rw [hi] at hdialogue
        rw [Sessions.step_done hdialogue]
        exact ⟨_, _, _, h⟩

include hserves hs hreports hwilling hrefuses in
theorem run {s : σ} (hview : view s = db) (schedule : List ι) :
    ∃ stage added todo, Progress ds m view db stage added todo
      (Sessions.run answer ⟨fun _ => ds.configureTable m, s, []⟩ schedule) := by
  apply Sessions.run_induction (P := fun g => ∃ stage added todo,
    Progress ds m view db stage added todo g)
  · rintro g i ⟨stage, added, todo, h⟩
    exact h.step hs hserves hreports hwilling hrefuses i
  · refine ⟨fun _ => .start, [], Datasource.lacking m.schema ⟨(origin m db).columns m.table⟩, ?_⟩
    exact ⟨rfl, fun _ => rfl, fun _ => trivial, .inr ⟨rfl, hview, fun _ => rfl⟩, .inl rfl⟩

end

end Progress

end Configuring

end SqlAdapter
