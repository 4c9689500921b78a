import SqlAdapter.Proofs.Concurrency.Progress

/-!
# Convergence of concurrent configurations

When all clients that configure the same table have ended, some client has succeeded, the others have
been overtaken by another one, and the columns are those that one client alone would have left.
-/

set_option autoImplicit false

namespace SqlAdapter.Configuring

variable {ds : Datasource} {m : Model} {ι σ : Type} {view : σ → Database}
  {answer : (c : Call) → σ → c.Reply × σ} {db : Database} {stage : ι → Stage}
  {added todo : List Field} {g : Sessions ι (Except Error Report × Model) σ} {s : σ} {i : ι}

namespace Progress

variable (hs : Setting ds m db) (h : Progress ds m view db stage added todo g)
  {a : Except Error Report × Model}

include hs h in
theorem of_done (hi : g.dialogue i = .done a) :
    (∃ f source, stage i = .failed f source ∧
      a = (.error (.ddl m.table (f.addition ds.dialect m.table).sql source), m)) ∨
    ((∃ texts, stage i = .adding [] texts) ∧ todo = [] ∧ ∃ report, a = (.ok report, m)) := by
  have hdialogue := (h.dialogue i).symm.trans hi
  have hsound := h.sound i
  cases hst : stage i with
  | start =>
    rw [hst, Stage.dialogue, configureTable_call hs todo] at hdialogue
    cases hdialogue
  | created =>
    rw [hst, Stage.dialogue, Datasource.reconcileColumns_eq] at hdialogue
    cases hdialogue
  | failed f source =>
    rw [hst, Stage.dialogue] at hdialogue
    exact .inl ⟨f, source, rfl, (Dialogue.done.inj hdialogue).symm⟩
  | adding missed texts =>
    rw [hst] at hsound
    rw [hst, Stage.dialogue] at hdialogue
    cases hfs : missed ++ todo with
    | nil =>
      obtain ⟨rfl, htodo⟩ := List.append_eq_nil_iff.1 hfs
      rw [hfs] at hdialogue
      exact .inr ⟨⟨texts, rfl⟩, htodo, _, (Dialogue.done.inj hdialogue).symm⟩
    | cons f fs =>
      have hmem : f ∈ missed ++ todo := by simp [hfs]
      have hf : f ∈ added ++ todo := by
        rcases List.mem_append.1 hmem with hm | hm
        · exact List.mem_append_left _ (hsound.1 f hm)
        · exact List.mem_append_right _ hm
      rw [hfs, Datasource.addColumns_call hs.changes (h.typed hs hf)] at hdialogue
      cases hdialogue

include hs h in
/-- When all have ended, no column is left to add and some client has succeeded. -/
theorem winner [Nonempty ι] (hdone : ∀ i, ∃ a, g.dialogue i = .done a) :
    todo = [] ∧ ∃ i report, g.dialogue i = .done (.ok report, m) := by
  obtain ⟨i, hi⟩ : ∃ i, ∀ f source, stage i ≠ .failed f source := by
    rcases h.leader with hnone | ⟨i, texts, hi⟩
    · -- nothing was added, so nobody can have been refused
      obtain ⟨i⟩ := ‹Nonempty ι›
      refine ⟨i, ?_⟩
      intro f source hf
      have hsound := h.sound i
      rw [hf, hnone] at hsound
      exact absurd hsound.1 List.not_mem_nil
    · exact ⟨i, fun f source hf => by simp [hi] at hf⟩
  obtain ⟨a, ha⟩ := hdone i
  rcases h.of_done hs ha with ⟨f, source, hf, -⟩ | ⟨-, htodo, report, rfl⟩
  · exact absurd hf (hi f source)
  · exact ⟨htodo, i, report, ha⟩

include hs h in
theorem overtaken {e : Error} (hi : g.dialogue i = .done a) (he : a.1 = .error e) :
    ∃ f ∈ m.schema.fields, ∃ t source, Datatype.parse? f.descriptor.datatype = some t ∧
      e = .ddl m.table (Statement.addColumn ds.dialect m.table f.name t.columnType).sql source ∧
      Overtaken ds.dialect m.table (.addColumn ds.dialect m.table f.name t.columnType) source i
        g.history := by
  rcases h.of_done hs hi with ⟨f, source, hf, rfl⟩ | ⟨-, -, report, rfl⟩
  · have hsound := h.sound i
    rw [hf] at hsound
    obtain ⟨hadded, hovertaken⟩ := hsound
    have hmem : f ∈ Datasource.lacking m.schema ⟨(origin m db).columns m.table⟩ := by
      rw [h.fields]
      exact List.mem_append_left _ hadded
    have hfield : f ∈ m.schema.fields := (List.mem_filter.1 hmem).1
    obtain ⟨t, ht⟩ := Option.isSome_iff_exists.1 (hs.typed f hfield)
    rw [Field.addition_eq ht] at hovertaken he
    exact ⟨f, hfield, t, source, ht, (Except.error.inj he).symm, hovertaken⟩
  · cases he

include hs h in
theorem state_eq_run (hserves : Serves view answer) (hreports : ReportsColumns view answer)
    (hwilling : Willing view answer) (hview : view s = db) (hi : g.dialogue i = .done a)
    (htodo : todo = []) :
    view g.state = view ((ds.configureTable m).run answer s).2 := by
  have hstart : stage i ≠ .start := by
    rcases h.of_done hs hi with ⟨f, source, hf, -⟩ | ⟨⟨texts, htexts⟩, -⟩
    · simp [hf]
    · simp [htexts]
  have hfields := h.fields
  rw [htodo, List.append_nil] at hfields
  subst hview
  obtain ⟨-, hstate⟩ := hserves.run_configureTable_planned hwilling hs.changes hs.dialect hreports
    hs.internal hs.rule hs.distinct fun f hf => hs.typed f (List.mem_filter.1 hf).1
  rw [h.state_eq hstart, hstate, ← hfields]
  rfl

end Progress

/-! ## Dry runs -/

/-- Nothing has changed, and every client is at its start or has succeeded. -/
def Rehearses (ds : Datasource) (m : Model) (view : σ → Database) (db : Database)
    (g : Sessions ι (Except Error Report × Model) σ) : Prop :=
  view g.state = db ∧ ∀ i, g.dialogue i = ds.configureTable m ∨
    ∃ report, g.dialogue i = .done (.ok report, m)

theorem Rehearses.step [DecidableEq ι] (hserves : Serves view answer)
    (hreports : ReportsColumns view answer) (hdry : ds.dryRun = true) (hm : m.isExternal = false)
    (hd : db.dialect = ds.dialect)
    (htyped : ∀ f ∈ m.schema.fields, (Datatype.parse? f.descriptor.datatype).isSome)
    (h : Rehearses ds m view db g) (i : ι) : Rehearses ds m view db (g.step answer i) := by
  obtain ⟨rfl, hdialogue⟩ := h
  rcases hdialogue i with hi | ⟨report, hi⟩
  · obtain ⟨next, hnext, hlisted⟩ := Datasource.configureTable_dry hdry hm htyped
    obtain ⟨rows, live, s', hanswer, hlive, -, hview⟩ :=
      hserves.listed hd hreports m.table
    rw [Sessions.step_call (hi.trans hnext), hanswer]
    refine ⟨hview, ?_⟩
    intro j
    by_cases hj : j = i
    · subst hj
      right
      simp only [Function.update_self]
      exact hlisted _ _ hlive
    · simp only [Function.update_of_ne hj]
      exact hdialogue j
  · rw [Sessions.step_done hi]
    exact ⟨rfl, hdialogue⟩

theorem Rehearses.of_done {a : Except Error Report × Model} (hdry : ds.dryRun = true)
    (hm : m.isExternal = false)
    (htyped : ∀ f ∈ m.schema.fields, (Datatype.parse? f.descriptor.datatype).isSome)
    (h : Rehearses ds m view db g) (hi : g.dialogue i = .done a) : ∃ report, a = (.ok report, m) := by
  obtain ⟨next, hnext, -⟩ := Datasource.configureTable_dry hdry hm htyped
  rcases h.2 i with hstart | ⟨report, hreport⟩
  · cases (hstart.trans hnext).symm.trans hi
  · exact ⟨report, (Dialogue.done.inj (hreport.symm.trans hi)).symm⟩

/-- Any number of clients that start to configure the table of a model. -/
def sessions (n : Nat) (ds : Datasource) (m : Model) (s : σ) :
    Sessions (Fin n) (Except Error Report × Model) σ :=
  ⟨fun _ => ds.configureTable m, s, []⟩

end SqlAdapter.Configuring

namespace SqlAdapter

open Configuring

/-- In whatever order the statements of the clients come, when all have ended some client has
succeeded, each that failed was overtaken in adding the column of a declared field, and the database
is as one client alone leaves it. -/
theorem Serves.sessions_converge {σ : Type} {view : σ → Database}
    {answer : (c : Call) → σ → c.Reply × σ} (hserves : Serves view answer)
    (hreports : ReportsColumns view answer) (hwilling : Willing view answer)
    (hrefuses : RefusesTaken view answer) {n : Nat} (hn : 0 < n) {ds : Datasource} {m : Model} {s : σ}
    (hd : (view s).dialect = ds.dialect) (hrule : (view s).rule = .exact) (hm : m.isExternal = false)
    (hdistinct : m.schema.names.Nodup)
    (htyped : ∀ f ∈ m.schema.fields, (Datatype.parse? f.descriptor.datatype).isSome)
    (schedule : List (Fin n))
    (hended : ∀ i, (((sessions n ds m s).run answer schedule).result? i).isSome) :
    let last := (sessions n ds m s).run answer schedule
    (∃ i report, last.result? i = some (.ok report, m)) ∧
    (∀ i e m', last.result? i = some (.error e, m') →
      ∃ f ∈ m.schema.fields, ∃ t source, Datatype.parse? f.descriptor.datatype = some t ∧
        e = .ddl m.table (Statement.addColumn ds.dialect m.table f.name t.columnType).sql source ∧
        Overtaken ds.dialect m.table (.addColumn ds.dialect m.table f.name t.columnType) source i
          last.history) ∧
    view last.state = view ((ds.configureTable m).run answer s).2 := by
  intro last
  have hdone : ∀ i, ∃ a, last.dialogue i = .done a := by
    intro i
    obtain ⟨a, ha⟩ := Option.isSome_iff_exists.1 (hended i)
    exact ⟨a, Sessions.result?_eq_some.1 ha⟩
  cases hdry : ds.dryRun with
  | true =>
    have h : Rehearses ds m view (view s) last :=
      Sessions.run_induction (fun g i h => h.step hserves hreports hdry hm hd htyped i)
        ⟨rfl, fun _ => .inl rfl⟩ schedule
    refine ⟨?_, ?_, h.1.trans (hserves.run_configureTable_plan hreports hdry hd hm).2.symm⟩
    · obtain ⟨a, ha⟩ := hdone ⟨0, hn⟩
      obtain ⟨report, rfl⟩ := h.of_done hdry hm htyped ha
      exact ⟨_, report, Sessions.result?_eq_some.2 ha⟩
    · intro i e m' he
      obtain ⟨report, hreport⟩ := h.of_done hdry hm htyped (Sessions.result?_eq_some.1 he)
      cases hreport
  | false =>
    have hs : Setting ds m (view s) := ⟨hdry, hd, hrule, hm, hdistinct, htyped⟩
    obtain ⟨stage, added, todo, h⟩ :
        ∃ stage added todo, Progress ds m view (view s) stage added todo last :=
      Progress.run hs hserves hreports hwilling hrefuses rfl schedule
    have : Nonempty (Fin n) := ⟨⟨0, hn⟩⟩
    obtain ⟨htodo, i, report, hi⟩ := h.winner hs hdone
    refine ⟨⟨i, report, Sessions.result?_eq_some.2 hi⟩, ?_,
      h.state_eq_run hs hserves hreports hwilling rfl hi htodo⟩
    intro i e m' he
    exact h.overtaken hs (Sessions.result?_eq_some.1 he) rfl

/-- Two clients that both list the columns before either adds one, in a schedule that lets both end. -/
theorem Configuring.sessions_converge_two :
    let schema : Schema :=
      ⟨[⟨"_id", ⟨"string", {}⟩⟩, ⟨"name", ⟨"string", {}⟩⟩, ⟨"Name", ⟨"number", {}⟩⟩]⟩
    let m : Model := { table := "people", schema := schema }
    let ds : Datasource := ⟨.generic, false⟩
    let db : Database := ⟨.generic, .exact, []⟩
    let last := (sessions 2 ds m db).run Database.answer [0, 1, 1, 0, 0, 1, 0, 1, 0, 1]
    (∀ i, (last.result? i).isSome) ∧
    (∃ i report, last.result? i = some (.ok report, m)) ∧
    (∀ i e m', last.result? i = some (.error e, m') →
      ∃ f ∈ m.schema.fields, ∃ t source, Datatype.parse? f.descriptor.datatype = some t ∧
        e = .ddl m.table (Statement.addColumn ds.dialect m.table f.name t.columnType).sql source ∧
        Overtaken ds.dialect m.table (.addColumn ds.dialect m.table f.name t.columnType) source i
          last.history) ∧
    last.state = ((ds.configureTable m).run Database.answer db).2 := by
  intro schema m ds db last
  have hm : m.isExternal = false := rfl
  have hturns : ∀ i : Fin 2, List.count i [0, 1, 1, 0, 0, 1, 0, 1, 0, 1] = 5 := by decide
  have hended : ∀ i, (last.result? i).isSome := by
    intro i
    apply Sessions.isSome_result?_run
    rw [hturns]
    exact ds.callsAtMost_configureTable hm
  exact ⟨hended, Database.serves_answer.sessions_converge Database.reportsColumns_answer
    Database.willing_answer Database.reportsTaken_answer.refusesTaken (by decide) rfl rfl hm
    (by decide) (by decide +kernel) _ hended⟩

end SqlAdapter
