import SqlAdapter.Proofs.Derivation
import SqlAdapter.Proofs.Insertion
import SqlAdapter.Proofs.Operation
import SqlAdapter.Proofs.Sql.Rows

/-!
# Generations of a model

The generation of a model tells its users whether results that they keep are stale. Whatever a datasource
does for a model, one thing after another, and whatever the database replies, the generation goes up by one
for each INSERT statement that was acknowledged and for nothing else: the statements sent are counted by
their texts.
-/

set_option autoImplicit false

namespace SqlAdapter

/-- The text of an INSERT statement. -/
def Statement.isInsertion (s : Statement) : Bool := (Sql.keyword? "INSERT INTO " s.sql.toList).isSome

/-- The number of INSERT statements that were acknowledged. -/
def inserted (es : List Exchange) : Nat :=
  es.countP fun e => e.acknowledged && e.call.statement.isInsertion

section Counting

variable {d : Dialect} {q : Sql.Command} {vs : List Value} {α σ : Type}
  {answer : (c : Call) → σ → c.Reply × σ} {s : σ} {es es' : List Exchange}

theorem inserted_append : inserted (es ++ es') = inserted es + inserted es' := List.countP_append

theorem isInsertion_insert {table : String} {columns : List String} :
    (Statement.ofCommand d (.insert table columns) vs).isInsertion = true := by
  rw [Statement.isInsertion, Statement.ofCommand, Sql.Command.toList_text, Sql.chars_insert,
    Sql.keyword?_append]
  rfl

theorem isInsertion_of_ne_insert (hq : ∀ table columns, q ≠ .insert table columns) :
    (Statement.ofCommand d q vs).isInsertion = false := by
  have hnone : Sql.keyword? "INSERT INTO " (q.chars d) = none := by
    cases q with
    | insert table columns => exact absurd rfl (hq table columns)
    | createTable table key =>
      rw [Sql.chars_createTable]
      exact Sql.keyword?_eq_none (by decide)
    | addColumn table column type =>
      rw [Sql.chars_addColumn]
      exact Sql.keyword?_eq_none (by decide)
    | select s =>
      show Sql.keyword? "INSERT INTO " (s.chars d) = none
      rw [s.chars_eq]
      exact Sql.keyword?_eq_none (by decide)
    | echo names => exact Sql.keyword?_eq_none (s := "SELECT ".toList) (by decide)
    | listColumns =>
      have hclash : Sql.Clash "INSERT INTO ".toList d.columnsQuery.toList := by
        cases d <;> decide +kernel
      have hquery := Sql.keyword?_eq_none (r := []) hclash
      rw [List.append_nil] at hquery
      exact hquery
  rw [Statement.isInsertion, Statement.ofCommand, Sql.Command.toList_text, hnone]
  rfl

theorem inserted_of_asks {x : Dialogue α} (hx : x.Asks fun c => c.statement.isInsertion = false) :
    inserted (x.transcript answer s) = 0 := by
  apply List.countP_eq_zero.2
  intro e he
  simp [hx.transcript he]

end Counting

/-! ## What is done for a model -/

namespace Model

/-- What a datasource can be used for in the life of a model. -/
inductive Use where
  | insertRecord (r : Record)
  | selectRows (table : String) (c : Criteria)
  | tableInfo (table : String)
  | ensureTable (table primaryKey : String)
  | reconcileColumns (table : String) (schema : Schema)
  | loadExternalSchema
  | configureTable

/-- Puts a datasource to use for a model. Gives the model as it is afterwards, whatever else comes of
it. -/
def Use.dialogue (ds : Datasource) (m : Model) : Use → Dialogue Model
  | insertRecord r => (ds.insertRecord m r).bind fun out => .done out.2
  | selectRows table c => Dialogue.bind (ds.selectRows table c) fun _ => .done m
  | tableInfo table => Dialogue.bind (ds.tableInfo table) fun _ => .done m
  | ensureTable table primaryKey => Dialogue.bind (ds.ensureTable table primaryKey) fun _ => .done m
  | reconcileColumns table schema => Dialogue.bind (ds.reconcileColumns table schema) fun _ => .done m
  | loadExternalSchema => (ds.loadExternalSchema m).bind fun out => .done out.2
  | configureTable => (ds.configureTable m).bind fun out => .done out.2

/-- Uses of datasources for one model, one after the other. -/
def life (m : Model) : List (Datasource × Use) → Dialogue Model
  | [] => .done m
  | (ds, u) :: rest => (u.dialogue ds m).bind fun m => life m rest

end Model

section Uses

variable {ds : Datasource} {m : Model} {r : Record} {u : Model.Use} {σ : Type}
  {answer : (c : Call) → σ → c.Reply × σ} {s : σ} {es : List Exchange}

theorem generation_loadExternalSchema :
    ((ds.loadExternalSchema m).run answer s).1.2.generation = m.generation := by
  cases h : ds.dialect.reported answer s m.table with
  | error e => rw [Datasource.run_loadExternalSchema_error h]
  | ok live => rw [Datasource.run_loadExternalSchema_ok h, Datasource.declare_eq]

theorem generation_configureTable :
    ((ds.configureTable m).run answer s).1.2.generation = m.generation := by
  cases hm : m.isExternal with
  | true =>
    rw [Datasource.configureTable_external hm, Dialogue.run_bind]
    exact generation_loadExternalSchema
  | false =>
    rw [Datasource.configureTable_eq hm, Dialogue.run_bind]
    cases (Dialogue.run answer
      (ds.change m.table (.createTable ds.dialect m.table m.primaryKey)) s).1 with
    | error e => rfl
    | ok _ =>
      dsimp only
      rw [Dialogue.run_bind]
      rfl

/-! ### Uses that insert nothing -/

theorem addition?_ne_insert {table : String} {f : Field} {q : Sql.Command}
    (hq : Operation.addition? table f = some q) {t : String} {columns : List String} :
    q ≠ .insert t columns := by
  obtain ⟨_, -, rfl⟩ := Option.map_eq_some_iff.1 hq
  exact nofun

theorem reconciling_ne_insert {table : String} {schema : Schema} {q : Sql.Command}
    (hq : q ∈ Operation.reconciling table schema) {t : String} {columns : List String} :
    q ≠ .insert t columns := by
  rcases List.mem_cons.1 hq with rfl | hq
  · exact nofun
  · obtain ⟨f, -, hf⟩ := List.mem_filterMap.1 hq
    exact addition?_ne_insert hf

theorem asks_not_insertion (op : Operation) (hop : ∀ m r, op ≠ .insertRecord m r) :
    (op.dialogue ds).Asks fun c => c.statement.isInsertion = false := by
  apply (Operation.asks_dialogue ds op).mono
  rintro c ⟨q, hq, -, vs, hc, -⟩
  rw [hc]
  apply isInsertion_of_ne_insert
  intro t columns
  cases op with
  | insertRecord m r => exact absurd rfl (hop m r)
  | ensureTable | loadExternalSchema =>
    rw [List.mem_singleton.1 hq]
    rintro ⟨⟩
  | reconcileColumns table schema => exact reconciling_ne_insert hq
  | configureTable m =>
    rw [Operation.commands] at hq
    split at hq
    · rw [List.mem_singleton.1 hq]
      rintro ⟨⟩
    · rcases List.mem_cons.1 hq with rfl | hq
      · rintro ⟨⟩
      · exact reconciling_ne_insert hq
  | selectRows table c =>
    rw [Operation.commands] at hq
    split at hq
    · rw [List.mem_singleton.1 hq]
      rintro ⟨⟩
    · cases hq

theorem asks_use (hu : ∀ r, u ≠ .insertRecord r) :
    (u.dialogue ds m).Asks fun c => c.statement.isInsertion = false := by
  cases u with
  | insertRecord r => exact absurd rfl (hu r)
  | selectRows table c =>
    exact (asks_not_insertion (.selectRows table c) nofun).bind fun _ => trivial
  | tableInfo table =>
    show Dialogue.Asks _ (Dialogue.bind (ds.tableInfo table) _)
    rw [Datasource.tableInfo_eq]
    exact ⟨isInsertion_of_ne_insert nofun, fun _ => trivial⟩
  | ensureTable table key =>
    exact (asks_not_insertion (.ensureTable table key) nofun).bind fun _ => trivial
  | reconcileColumns table schema =>
    exact (asks_not_insertion (.reconcileColumns table schema) nofun).bind fun _ => trivial
  | loadExternalSchema =>
    exact (asks_not_insertion (.loadExternalSchema m) nofun).bind fun _ => trivial
  | configureTable =>
    exact (asks_not_insertion (.configureTable m) nofun).bind fun _ => trivial

theorem generation_use (hu : ∀ r, u ≠ .insertRecord r) :
    ((u.dialogue ds m).run answer s).1.generation = m.generation := by
  cases u with
  | insertRecord r => exact absurd rfl (hu r)
  | selectRows | tableInfo | ensureTable | reconcileColumns =>
    rw [Model.Use.dialogue, Dialogue.run_bind]
    rfl
  | loadExternalSchema =>
    rw [Model.Use.dialogue, Dialogue.run_bind]
    exact generation_loadExternalSchema
  | configureTable =>
    rw [Model.Use.dialogue, Dialogue.run_bind]
    exact generation_configureTable

/-! ### Insertions -/

theorem generation_zero {n : Nat} (hn : n = 0) :
    m.generation = m.generation.map (· + UInt64.ofNat n) := by
  subst hn
  cases m.generation with
  | none => rfl
  | some g => exact congrArg some (UInt64.add_zero g).symm

theorem inserted_acknowledged {d : Dialect} {table : String} {columns : List String} {vs : List Value}
    {ack : Ack} (hes : inserted es = 0) :
    inserted (⟨.execute (.ofCommand d (.insert table columns) vs), .ok ack⟩ :: es) = 1 := by
  rw [inserted, List.countP_cons_of_pos, ← inserted, hes]
  show (true && (Statement.ofCommand d (.insert table columns) vs).isInsertion) = true
  rw [isInsertion_insert]
  rfl

theorem generation_insertion {d : Dialect} {out : Except Error Record × Model}
    (h : Insertion d m r es out) :
    out.2.generation = m.generation.map (· + UInt64.ofNat (inserted es)) := by
  cases h with
  | empty hr => exact generation_zero rfl
  | refused hr e => exact generation_zero rfl
  | echoed hr ack row hrow =>
    rw [inserted_acknowledged rfl]
    rfl
  | keyless hr ack hrow hkey =>
    rw [inserted_acknowledged rfl]
    rfl
  | readBack hr ack hrow key hkey q hq reply =>
    rw [Statement.select_withKey] at hq
    cases hq
    have hquery : (Statement.lookup d m.table m.primaryKey key).isInsertion = false :=
      isInsertion_of_ne_insert nofun
    rw [inserted_acknowledged (by simp [inserted, Call.statement, hquery])]
    rfl

/-! ## One use and many -/

theorem generation_dialogue :
    ((u.dialogue ds m).run answer s).1.generation =
      m.generation.map (· + UInt64.ofNat (inserted ((u.dialogue ds m).transcript answer s))) := by
  by_cases hu : ∃ r, u = .insertRecord r
  · obtain ⟨r, rfl⟩ := hu
    have hyields := Dialogue.yields_run answer (ds.insertRecord m r) s
    rw [Model.Use.dialogue, Dialogue.run_bind, Dialogue.transcript_bind, Dialogue.transcript_done,
      List.append_nil]
    exact generation_insertion (Datasource.insertion_of_yields hyields)
  · have hu := not_exists.1 hu
    rw [generation_use hu]
    exact generation_zero (inserted_of_asks (asks_use hu))

theorem generation_life (m : Model) (steps : List (Datasource × Model.Use)) (s : σ) :
    ((m.life steps).run answer s).1.generation =
      m.generation.map (· + UInt64.ofNat (inserted ((m.life steps).transcript answer s))) := by
  induction steps generalizing m s with
  | nil => exact generation_zero rfl
  | cons step rest ih =>
    rw [Model.life, Dialogue.run_bind, Dialogue.transcript_bind, ih, generation_dialogue,
      inserted_append]
    cases m.generation with
    | none => rfl
    | some g => simp [UInt64.add_assoc]

/-- The use is an insertion, and the database acknowledges its statement. -/
def Model.Use.Stores (ds : Datasource) (m : Model) (answer : (c : Call) → σ → c.Reply × σ) (s : σ) :
    Model.Use → Prop
  | .insertRecord r => ∃ q ack, Statement.insert ds.dialect m.table r = .ok q ∧
      (answer (.execute q) s).1 = .ok ack
  | _ => False

theorem eq_of_insert_eq_ok {d : Dialect} {table : String} {q : Statement}
    (hq : Statement.insert d table r = .ok q) :
    ¬r.isEmpty ∧ q = .ofCommand d (.insert table r.names) r.values := by
  unfold Statement.insert at hq
  split at hq
  · cases hq
  · case isFalse hr => exact ⟨hr, (Except.ok.inj hq).symm⟩

/-- Once the insertion is acknowledged, nothing that follows can keep the generation where it was. -/
theorem run_acknowledged {ack : Ack} : ((ds.acknowledged m r ack).run answer s).1.2 = m.invalidate := by
  unfold Datasource.acknowledged
  split
  · rfl
  · rw [Dialogue.run_bind]
    rfl

theorem generation_of_stores (h : u.Stores ds m answer s) :
    ((u.dialogue ds m).run answer s).1.generation = m.generation.map (· + 1) := by
  cases u with
  | insertRecord r =>
    obtain ⟨q, ack, hq, hack⟩ := h
    obtain ⟨hr, rfl⟩ := eq_of_insert_eq_ok hq
    rw [Model.Use.dialogue, Dialogue.run_bind, Datasource.insertRecord_of_nonempty hr,
      Dialogue.run_call, hack]
    exact congrArg Model.generation run_acknowledged
  | selectRows | tableInfo | ensureTable | reconcileColumns | loadExternalSchema | configureTable =>
    exact h.elim

theorem generation_of_not_stores (h : ¬u.Stores ds m answer s) :
    ((u.dialogue ds m).run answer s).1.generation = m.generation := by
  cases u with
  | insertRecord r =>
    rw [Model.Use.dialogue, Dialogue.run_bind]
    cases hq : Statement.insert ds.dialect m.table r with
    | error e =>
      rw [Datasource.insertRecord, hq]
      rfl
    | ok q =>
      obtain ⟨hr, rfl⟩ := eq_of_insert_eq_ok hq
      rw [Datasource.insertRecord_of_nonempty hr, Dialogue.run_call]
      cases hack : (answer (.execute (.ofCommand ds.dialect (.insert m.table r.names) r.values)) s).1 with
      | error e => rfl
      | ok ack => exact absurd ⟨_, ack, hq, hack⟩ h
  | selectRows | tableInfo | ensureTable | reconcileColumns | loadExternalSchema | configureTable =>
    exact generation_use (by rintro _ ⟨⟩)

end Uses

/-- Whatever datasources do for a model, in a dry run or not, and whatever the replies: its generation has
gone up by the number of INSERT statements that were acknowledged, modulo the size of the counter. Of the
single uses an insertion moves it by one as soon as its statement is acknowledged, even if the row cannot be
read back; an insertion without a statement or with one that is refused, and every other use, leaves it
alone. -/
theorem generation_counts_insertions {σ : Type} (answer : (c : Call) → σ → c.Reply × σ) (s : σ)
    (m : Model) :
    (∀ steps : List (Datasource × Model.Use),
      ((m.life steps).run answer s).1.generation.map UInt64.toNat =
        m.generation.map fun g =>
          (g.toNat + inserted ((m.life steps).transcript answer s)) % UInt64.size) ∧
    ∀ (ds : Datasource) (u : Model.Use),
      (u.Stores ds m answer s →
        ((u.dialogue ds m).run answer s).1.generation = m.generation.map (· + 1)) ∧
      (¬u.Stores ds m answer s →
        ((u.dialogue ds m).run answer s).1.generation = m.generation) := by
  constructor
  · intro steps
    rw [generation_life]
    cases m.generation with
    | none => rfl
    | some g => simp [UInt64.toNat_add, UInt64.size]
  · intro ds u
    exact ⟨generation_of_stores, generation_of_not_stores⟩

/-- The counter runs over when a row is stored that cannot be read back; it stays where it is when the same
insertion is refused in a dry run, when a table is configured, and when there is nothing to insert. -/
theorem generation_counts_insertions_overflow :
    let m : Model := { table := "people", generation := some 18446744073709551615 }
    let insertion : Model.Use := .insertRecord (.ofList [("name", .text "Ada")])
    let steps : List (Datasource × Model.Use) := [(⟨.sqlite, false⟩, insertion),
      (⟨.sqlite, true⟩, insertion), (⟨.mysql, false⟩, .configureTable), (⟨.generic, false⟩, .insertRecord ∅)]
    let script : Script := { replies := [.affected 1, .failure (.connectivity "gone")] }
    let refusing : Script := { replies := [.failure (.connectivity "gone")] }
    ((m.life steps).run Script.answer script).1.generation.map UInt64.toNat = some 0 ∧
      insertion.Stores ⟨.sqlite, false⟩ m Script.answer script ∧
      ((insertion.dialogue ⟨.sqlite, false⟩ m).run Script.answer script).1.generation = some 0 ∧
      ¬insertion.Stores ⟨.sqlite, true⟩ m Script.answer refusing ∧
      ((insertion.dialogue ⟨.sqlite, true⟩ m).run Script.answer refusing).1.generation = m.generation := by
  intro m insertion steps script refusing
  have hstores : insertion.Stores ⟨.sqlite, false⟩ m Script.answer script := ⟨_, .affected 1, rfl, rfl⟩
  have hrefused : ¬insertion.Stores ⟨.sqlite, true⟩ m Script.answer refusing := by
    rintro ⟨q, ack, -, hack⟩
    cases hack
  obtain ⟨hlife, huse⟩ := generation_counts_insertions Script.answer script m
  refine ⟨?_, hstores, ((huse _ _).1 hstores).trans rfl, hrefused, ?_⟩
  · have hone : inserted ((m.life steps).transcript Script.answer script) = 1 := by decide +kernel
    rw [hlife steps, hone]
    rfl
  · exact ((generation_counts_insertions Script.answer refusing m).2 _ _).2 hrefused

end SqlAdapter
