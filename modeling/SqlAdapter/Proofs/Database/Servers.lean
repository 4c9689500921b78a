import Mathlib.Data.List.Forall2
import SqlAdapter.Proofs.Database.Affinity
import SqlAdapter.Proofs.Derivation

/-!
# Servers

A server answers calls out of a state of its own, behind which it keeps a database. `Serves` says what the
database becomes: a command that a datasource sends is carried out and acknowledged, or refused and of no
effect. What a server reports, and when it refuses, are assumptions apart, and a statement about servers
names the ones that it needs. A database in memory meets all of them, however it converts values.
-/

set_option autoImplicit false

namespace SqlAdapter

/-- The commands that a datasource sends: a new column has the type of a datatype, and a new row names its
columns. -/
def Sql.Command.IsSent : Sql.Command → Prop
  | addColumn _ _ type => ∃ t : Datatype, type = t.columnType
  | insert _ columns => columns ≠ []
  | echo _ => False
  | createTable .. | listColumns | select _ => True

theorem Sql.Command.IsSent.read?_text {d : Dialect} {q : Sql.Command} (h : q.IsSent) :
    Sql.Command.read? d (q.text d) = some q := by
  cases q with
  | createTable | addColumn | listColumns => exact Sql.Command.read?_text trivial
  | insert table columns => exact Sql.Command.read?_insert h
  | select s => exact Sql.Command.read?_select s
  | echo names => exact h.elim

namespace Database

/-- What becomes of a database when a command is carried out. The content of a new row is left open. -/
inductive Effect (db : Database) : Sql.Command → Database → Prop
  | createTable {table key : String} : Effect db (.createTable table key) (db.createTable table key)
  | addColumn {table column type : String} (h : (db.table? table).isSome) :
    Effect db (.addColumn table column type) (db.update table (·.addColumn ⟨column, type⟩))
  | insert {table : String} {columns : List String} (h : (db.table? table).isSome)
    (content : Column → Value) :
    Effect db (.insert table columns) (db.update table (·.addRow content))
  | listColumns : Effect db .listColumns db
  | select {s : Sql.Select} : Effect db (.select s) db

variable {db new : Database} {q : Sql.Command} {table key column type : String}

theorem Effect.eq_createTable (h : db.Effect (.createTable table key) new) :
    new = db.createTable table key := by
  cases h
  rfl

theorem Effect.eq_addColumn (h : db.Effect (.addColumn table column type) new) :
    new = db.update table (·.addColumn ⟨column, type⟩) := by
  cases h
  rfl

theorem Effect.eq_listColumns (h : db.Effect .listColumns new) : new = db := by
  cases h
  rfl

/-- A command is carried out, or refused while the database stays as it is. -/
theorem effect_of_perform {vs : List Value} (hecho : ∀ names, q ≠ .echo names) :
    (∃ e, (db.perform q vs).1 = .error e) ∧ (db.perform q vs).2 = db ∨
      (∃ o, (db.perform q vs).1 = .ok o) ∧ db.Effect q (db.perform q vs).2 := by
  cases q with
  | createTable table key => exact .inr ⟨⟨_, rfl⟩, .createTable⟩
  | addColumn table column type =>
    rw [perform]
    cases hadd : db.addColumn table ⟨column, type⟩ with
    | error e => exact .inl ⟨⟨e, rfl⟩, rfl⟩
    | ok new =>
      obtain ⟨t, ht, -, rfl⟩ := addColumn_eq_ok hadd
      exact .inr ⟨⟨_, rfl⟩, .addColumn (by rw [ht]; rfl)⟩
  | insert table columns =>
    rw [perform]
    cases hinsert : db.insert table columns vs with
    | error e => exact .inl ⟨⟨e, rfl⟩, rfl⟩
    | ok new =>
      obtain ⟨t, ht, -, rfl⟩ := insert_eq_ok hinsert
      exact .inr ⟨⟨_, rfl⟩, .insert (by rw [ht]; rfl) _⟩
  | select s =>
    rw [perform]
    cases db.select s vs with
    | error e => exact .inl ⟨⟨e, rfl⟩, rfl⟩
    | ok rows => exact .inr ⟨⟨_, rfl⟩, .select⟩
  | listColumns =>
    right
    rcases vs with _ | ⟨v, vs⟩
    · exact ⟨⟨_, rfl⟩, .listColumns⟩
    · cases v <;> exact ⟨⟨_, rfl⟩, .listColumns⟩
  | echo names => exact absurd rfl (hecho names)

end Database

/-- The columns differ at most in the case of the letters of their types. -/
def Column.Alike (c c' : Column) : Prop := c.name = c'.name ∧ Text.sameIgnoringCase c.type c'.type

theorem Datasource.lacking_eq_of_alike {live : LiveSchema} {cs : List Column} {schema : Schema}
    (h : List.Forall₂ Column.Alike live.columns cs) : lacking schema live = lacking schema ⟨cs⟩ := by
  have hnames : live.names = cs.map Column.name := by
    unfold LiveSchema.names
    generalize live.columns = reported at h ⊢
    induction h with
    | nil => rfl
    | cons hc _ ih => rw [List.map_cons, List.map_cons, hc.1, ih]
  rw [lacking_eq, lacking_eq, hnames]
  rfl

/-! ## What is assumed of a server -/

section Servers

variable {σ : Type} (view : σ → Database) (answer : (c : Call) → σ → c.Reply × σ)

/-- Behind its own state, a server keeps a database. It carries out what a datasource sends and
acknowledges it, or refuses it and leaves the database as it is. -/
def Serves : Prop :=
  ∀ (s : σ) (c : Call) (q : Sql.Command) (vs : List Value), q.IsSent →
    c.statement = .ofCommand (view s).dialect q vs → vs.length = q.arity →
      if (Exchange.mk c (answer c s).1).acknowledged then (view s).Effect q (view (answer c s).2)
      else view (answer c s).2 = view s

/-- Asked for the columns of a table, a server reports those of its database in their order; the letters of
a type may be in another case. -/
def ReportsColumns : Prop :=
  ∀ (s : σ) (table : String), ∃ live, (view s).dialect.reported answer s table = .ok live ∧
    List.Forall₂ Column.Alike live.columns ((view s).columns table)

/-- A table that is there can be created again. -/
def Recreates : Prop :=
  ∀ (s : σ) (table key : String), ((view s).table? table).isSome →
    ∃ ack, (answer (.execute (.createTable (view s).dialect table key)) s).1 = .ok ack

/-- A server that refuses no table, and no column whose name is free. -/
structure Willing : Prop where
  creates (s : σ) (table key : String) :
    ∃ ack, (answer (.execute (.createTable (view s).dialect table key)) s).1 = .ok ack
  adds (s : σ) (table name : String) (t : Datatype) (ht : ((view s).table? table).isSome)
    (hfree : (view s).Free table name) :
    ∃ ack, (answer (.execute (.addColumn (view s).dialect table name t.columnType)) s).1 = .ok ack

/-- A column whose name is taken is refused. -/
def RefusesTaken : Prop :=
  ∀ (s : σ) (table name : String) (t : Datatype), ((view s).table? table).isSome →
    ¬(view s).Free table name →
      ∃ e, (answer (.execute (.addColumn (view s).dialect table name t.columnType)) s).1 = .error e

/-- A column whose name is taken is refused as a duplicate. -/
def ReportsTaken : Prop :=
  ∀ (s : σ) (table name : String) (t : Datatype), ((view s).table? table).isSome →
    ¬(view s).Free table name →
      (answer (.execute (.addColumn (view s).dialect table name t.columnType)) s).1 =
        .error (Database.duplicateColumn name).toError

/-- Nothing is refused as a duplicate but a column whose name is taken. -/
structure DuplicatesOnly : Prop where
  creates (s : σ) (table key name : String) :
    (answer (.execute (.createTable (view s).dialect table key)) s).1 ≠
      .error (Database.duplicateColumn name).toError
  adds (s : σ) (table name name' : String) (t : Datatype) (ht : ((view s).table? table).isSome)
    (hfree : (view s).Free table name) :
    (answer (.execute (.addColumn (view s).dialect table name t.columnType)) s).1 ≠
      .error (Database.duplicateColumn name').toError

variable {view answer}

theorem Willing.recreates (h : Willing view answer) : Recreates view answer :=
  fun s table key _ => h.creates s table key

theorem ReportsTaken.refusesTaken (h : ReportsTaken view answer) : RefusesTaken view answer :=
  fun s table name t ht htaken => ⟨_, h s table name t ht htaken⟩

/-! ## Single calls -/

namespace Serves

variable {d : Dialect} {s s' : σ} {table key : String} {f : Field} (h : Serves view answer)

include h

section

variable (hd : (view s).dialect = d)

include hd

theorem of_execute {st : Statement} {q : Sql.Command} {reply : Except Error Ack} (hq : q.IsSent)
    (hst : st = .ofCommand d q []) (harity : q.arity = 0)
    (hanswer : answer (.execute st) s = (reply, s')) :
    (∃ e, reply = .error e) ∧ view s' = view s ∨
      (∃ ack, reply = .ok ack) ∧ (view s).Effect q (view s') := by
  subst hd
  have hserved := h s (.execute st) q [] hq hst harity.symm
  rw [hanswer] at hserved
  cases reply with
  | error e => exact .inl ⟨⟨e, rfl⟩, hserved⟩
  | ok ack => exact .inr ⟨⟨ack, rfl⟩, hserved⟩

theorem of_createTable {reply : Except Error Ack}
    (hanswer : answer (.execute (.createTable d table key)) s = (reply, s')) :
    (∃ e, reply = .error e) ∧ view s' = view s ∨
      (∃ ack, reply = .ok ack) ∧ view s' = (view s).createTable table key :=
  (h.of_execute hd (q := .createTable table key) trivial rfl rfl hanswer).imp_right
    fun ⟨hack, heffect⟩ => ⟨hack, heffect.eq_createTable⟩

theorem of_addition {reply : Except Error Ack} (hf : (Datatype.parse? f.descriptor.datatype).isSome)
    (hanswer : answer (.execute (f.addition d table)) s = (reply, s')) :
    (∃ e, reply = .error e) ∧ view s' = view s ∨
      (∃ ack, reply = .ok ack) ∧ view s' = (view s).update table (·.addColumn f.column) := by
  obtain ⟨t, ht⟩ := Option.isSome_iff_exists.1 hf
  have hsent : (Sql.Command.addColumn table f.column.name f.column.type).IsSent :=
    ⟨t, by rw [Field.column_eq ht]⟩
  exact (h.of_execute hd hsent rfl rfl hanswer).imp_right
    fun ⟨hack, heffect⟩ => ⟨hack, heffect.eq_addColumn⟩

theorem view_listColumns (table : String) :
    view (answer (.query (.listColumns d table)) s).2 = view s := by
  subst hd
  have hserved := h s (.query (.listColumns (view s).dialect table)) .listColumns [.text table] trivial
    rfl rfl
  split at hserved
  · exact hserved.eq_listColumns
  · exact hserved

theorem listed (hreports : ReportsColumns view answer) (table : String) : ∃ rows live s',
    answer (.query (.listColumns d table)) s = (.ok rows, s') ∧
      LiveSchema.ofRows table rows = .ok live ∧
      List.Forall₂ Column.Alike live.columns ((view s).columns table) ∧ view s' = view s := by
  obtain ⟨live, hlive, halike⟩ := hreports s table
  have hsame : view (answer (.query (.listColumns d table)) s).2 = view s := h.view_listColumns hd table
  rw [hd, Dialect.reported] at hlive
  cases hrows : (answer (.query (.listColumns d table)) s).1 with
  | error e =>
    rw [hrows] at hlive
    cases hlive
  | ok rows =>
    rw [hrows] at hlive
    exact ⟨rows, live, _, Prod.ext hrows rfl, hlive, halike, hsame⟩

theorem recreated (hagain : Recreates view answer) (key : String)
    (ht : ((view s).table? table).isSome) :
    ∃ ack s', answer (.execute (.createTable d table key)) s = (.ok ack, s') ∧ view s' = view s := by
  obtain ⟨ack, hack⟩ := hagain s table key ht
  rw [hd] at hack
  have hanswer : answer (.execute (.createTable d table key)) s = (.ok ack, _) := Prod.ext hack rfl
  rcases h.of_createTable hd hanswer with ⟨⟨e, he⟩, -⟩ | ⟨-, hview⟩
  · cases he
  · exact ⟨ack, _, hanswer, hview.trans (Database.createTable_eq_self ht)⟩

theorem created (hwilling : Willing view answer) (table key : String) : ∃ ack s',
    answer (.execute (.createTable d table key)) s = (.ok ack, s') ∧
      view s' = (view s).createTable table key := by
  obtain ⟨ack, hack⟩ := hwilling.creates s table key
  rw [hd] at hack
  have hanswer : answer (.execute (.createTable d table key)) s = (.ok ack, _) := Prod.ext hack rfl
  rcases h.of_createTable hd hanswer with ⟨⟨e, he⟩, -⟩ | ⟨-, hview⟩
  · cases he
  · exact ⟨ack, _, hanswer, hview⟩

end

section

variable (hready : (view s).Ready d table) (hf : (Datatype.parse? f.descriptor.datatype).isSome)

include hready hf

theorem added (hwilling : Willing view answer) (hfree : (view s).Free table f.name) : ∃ ack s',
    answer (.execute (f.addition d table)) s = (.ok ack, s') ∧
      view s' = (view s).update table (·.addColumn f.column) := by
  obtain ⟨t, hparse⟩ := Option.isSome_iff_exists.1 hf
  obtain ⟨ack, hack⟩ := hwilling.adds s table f.name t hready.there hfree
  rw [hready.dialect, ← Field.addition_eq hparse] at hack
  have hanswer : answer (.execute (f.addition d table)) s = (.ok ack, _) := Prod.ext hack rfl
  rcases h.of_addition hready.dialect hf hanswer with ⟨⟨e, he⟩, -⟩ | ⟨-, hview⟩
  · cases he
  · exact ⟨ack, _, hanswer, hview⟩

theorem refused (hrefuses : RefusesTaken view answer) (htaken : ¬(view s).Free table f.name) :
    ∃ e s', answer (.execute (f.addition d table)) s = (.error e, s') ∧ view s' = view s := by
  obtain ⟨t, hparse⟩ := Option.isSome_iff_exists.1 hf
  obtain ⟨e, he⟩ := hrefuses s table f.name t hready.there htaken
  rw [hready.dialect, ← Field.addition_eq hparse] at he
  have hanswer : answer (.execute (f.addition d table)) s = (.error e, _) := Prod.ext he rfl
  rcases h.of_addition hready.dialect hf hanswer with ⟨-, hview⟩ | ⟨⟨ack, hack⟩, -⟩
  · exact ⟨e, _, hanswer, hview⟩
  · cases hack

theorem refused_duplicate (hreported : ReportsTaken view answer)
    (htaken : ¬(view s).Free table f.name) : ∃ s', answer (.execute (f.addition d table)) s =
      (.error (Database.duplicateColumn f.name).toError, s') ∧ view s' = view s := by
  obtain ⟨e, s', hanswer, hview⟩ := h.refused hready hf hreported.refusesTaken htaken
  obtain ⟨t, hparse⟩ := Option.isSome_iff_exists.1 hf
  have hreply := hreported s table f.name t hready.there htaken
  rw [hready.dialect, ← Field.addition_eq hparse, hanswer] at hreply
  cases hreply
  exact ⟨s', hanswer, hview⟩

end

end Serves

end Servers

/-! ## Databases in memory -/

namespace Database

variable (a : Affinity)

theorem acknowledged_answerBy (db : Database) (c : Call) :
    (Exchange.mk c (answerBy a c db).1).acknowledged = true ↔
      ∃ o, (db.runBy a c.statement).1 = .ok o := by
  cases c with
  | execute s | query s =>
    rw [answerBy]
    cases hrun : (db.runBy a s).1 with
    | error e | ok o =>
      simp [Call.statement, hrun, Except.map, Except.mapError, Exchange.acknowledged]

theorem serves_answerBy : Serves (fun db => db) (answerBy a) := by
  intro db c q vs hq hc _
  obtain ⟨ws, hrun⟩ : ∃ ws, db.runBy a c.statement = db.perform q ws := by
    rw [hc]
    exact ⟨_, runBy_ofCommand rfl hq.read?_text⟩
  have hecho : ∀ names, q ≠ .echo names := by
    rintro names rfl
    exact hq
  have hack := acknowledged_answerBy a db c
  rw [hrun] at hack
  rw [snd_answerBy, hrun]
  rcases effect_of_perform hecho with ⟨⟨e, he⟩, hsame⟩ | ⟨hdone, heffect⟩
  · rw [if_neg]
    · exact hsame
    · rw [hack, he]
      rintro ⟨o, ho⟩
      cases ho
  · rw [if_pos (hack.2 hdone)]
    exact heffect

theorem answerBy_createTable (db : Database) (table key : String) :
    answerBy a (.execute (.createTable db.dialect table key)) db =
      (.ok (.affected 0), db.createTable table key) := by
  rw [answerBy_eq_answer rfl (q := .createTable table key) trivial rfl]
  exact answer_createTable rfl

theorem answerBy_addColumn (db : Database) (table name type : String) :
    answerBy a (.execute (.addColumn db.dialect table name type)) db =
      answer (.execute (.addColumn db.dialect table name type)) db :=
  answerBy_eq_answer rfl (q := .addColumn table name type) trivial rfl

theorem reportsColumns_answerBy : ReportsColumns (fun db => db) (answerBy a) := by
  intro db table
  refine ⟨⟨db.columns table⟩, ?_, List.forall₂_same.2 fun c _ => ⟨rfl, Text.sameIgnoringCase_refl⟩⟩
  rw [Dialect.reported, answerBy_eq_answer rfl (q := .listColumns) trivial rfl,
    answer_listColumns rfl]
  exact ofRows_columnRows db table

theorem willing_answerBy : Willing (fun db => db) (answerBy a) where
  creates db table key := ⟨_, by rw [answerBy_createTable]⟩
  adds db table name t ht hfree := by
    have hadded := answer_addColumn (c := ⟨name, t.columnType⟩) rfl ht hfree
    exact ⟨_, congrArg Prod.fst ((answerBy_addColumn a db table name t.columnType).trans hadded)⟩

theorem reportsTaken_answerBy : ReportsTaken (fun db => db) (answerBy a) := by
  intro db table name t ht htaken
  have hrefused := answer_addColumn_taken (c := ⟨name, t.columnType⟩) rfl ht htaken
  exact congrArg Prod.fst ((answerBy_addColumn a db table name t.columnType).trans hrefused)

theorem duplicatesOnly_answerBy : DuplicatesOnly (fun db => db) (answerBy a) where
  creates db table key name := by
    rw [answerBy_createTable]
    rintro ⟨⟩
  adds db table name name' t ht hfree := by
    obtain ⟨ack, hack⟩ := (willing_answerBy a).adds db table name t ht hfree
    rw [hack]
    rintro ⟨⟩

theorem serves_answer : Serves (fun db => db) answer := answerBy_plain ▸ serves_answerBy .plain

theorem reportsColumns_answer : ReportsColumns (fun db => db) answer :=
  answerBy_plain ▸ reportsColumns_answerBy .plain

theorem willing_answer : Willing (fun db => db) answer := answerBy_plain ▸ willing_answerBy .plain

theorem reportsTaken_answer : ReportsTaken (fun db => db) answer := answerBy_plain ▸ reportsTaken_answerBy .plain

theorem duplicatesOnly_answer : DuplicatesOnly (fun db => db) answer :=
  answerBy_plain ▸ duplicatesOnly_answerBy .plain

end Database

end SqlAdapter
