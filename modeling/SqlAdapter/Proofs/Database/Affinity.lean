import SqlAdapter.Proofs.Database.Columns
import SqlAdapter.Proofs.Operation
import SqlAdapter.Proofs.Sql.Rows

/-!
# Column affinity

A database may keep a value in another form than it was given: a column of text keeps the digits of an
integer. A value that is compared with the content of a column first takes the form that it would have
there. What becomes of a value is left open but for its kind; the database in memory keeps every value as
it is.
-/

set_option autoImplicit false

namespace SqlAdapter

/-- What becomes of a stored value in a column of some type. Null stays null and nothing else becomes null;
nothing becomes a Boolean. -/
structure Affinity where
  convert : String → Value → Value
  convert_eq_null_iff : ∀ type v, convert type v = .null ↔ v = .null
  eq_of_convert_eq_bool : ∀ type v b, convert type v = .bool b → v = .bool b

namespace Affinity

/-- Every value stays as it is. -/
def plain : Affinity where
  convert _ v := v
  convert_eq_null_iff _ _ := .rfl
  eq_of_convert_eq_bool _ _ _ h := h

/-- In a column of text an integer becomes its digits. -/
def digits : Affinity where
  convert type v :=
    match v with
    | .int n => if type ∈ ["VARCHAR(24)", "TEXT"] then .text (toString n.toInt) else .int n
    | v => v
  convert_eq_null_iff type v := by
    cases v with
    | int n =>
      dsimp only
      split <;> simp
    | _ => rfl
  eq_of_convert_eq_bool type v b h := by
    cases v with
    | int n =>
      dsimp only at h
      split at h <;> cases h
    | _ => exact h

/-- The values for some placeholders, each converted for the column type of its placeholder. -/
def convertAll (a : Affinity) : List String → List Value → List Value
  | type :: types, v :: vs => a.convert type v :: convertAll a types vs
  | _, vs => vs

@[simp] theorem convertAll_plain (types : List String) (vs : List Value) :
    plain.convertAll types vs = vs := by
  induction types generalizing vs with
  | nil => cases vs <;> rfl
  | cons type types ih =>
    cases vs with
    | nil => rfl
    | cons v vs => rw [convertAll, ih]; rfl

end Affinity

/-- The columns that the placeholders of a test are compared with. A pattern is compared with none. -/
def Sql.Test.compared : Sql.Test → List (Option String)
  | .like _ => [none]
  | t => List.replicate t.arity t.column?

namespace Database

/-- The type of a column; one that does not exist has an empty type. -/
def columnType (db : Database) (table name : String) : String :=
  (((db.table? table).bind fun t => t.column? db.rule name).map Column.type).getD ""

/-- The types of the columns that the placeholders of a command stand for. -/
def placeholderTypes (db : Database) : Sql.Command → List String
  | .insert table columns => columns.map (db.columnType table)
  | .select s => (((s.condition.map Formula.atoms).getD []).flatMap Sql.Test.compared).map fun c =>
      (c.map (db.columnType s.table)).getD ""
  | _ => []

/-- Runs a statement in a database that converts values. -/
def runBy (a : Affinity) (db : Database) (s : Statement) : Except DriverFault Outcome × Database :=
  match Sql.Command.read? db.dialect s.sql with
  | some c => db.perform c (a.convertAll (db.placeholderTypes c) (s.values.map Value.stored))
  | none => (.error notUnderstood, db)

/-- Answers a call in a database that converts values. -/
def answerBy (a : Affinity) (c : Call) (db : Database) : c.Reply × Database :=
  match c with
  | .execute s =>
    (((db.runBy a s).1.map Outcome.ack).mapError DriverFault.toError, (db.runBy a s).2)
  | .query s =>
    (((db.runBy a s).1.map Outcome.records).mapError DriverFault.toError, (db.runBy a s).2)

variable {a : Affinity} {db : Database} {d : Dialect}

theorem answerBy_plain : answerBy .plain = answer := by
  have hrun : ∀ db s, runBy .plain db s = run db s := by
    intro db s
    unfold runBy run
    cases Sql.Command.read? db.dialect s.sql with
    | none => rfl
    | some c =>
      dsimp only
      rw [Affinity.convertAll_plain]
  funext c db
  cases c with
  | execute s => simp only [answerBy, answer, hrun]
  | query s => simp only [answerBy, answer, hrun]

theorem snd_answerBy {c : Call} : (answerBy a c db).2 = (db.runBy a c.statement).2 := by
  cases c <;> rfl

theorem runBy_ofCommand {q : Sql.Command} {vs : List Value} (hd : db.dialect = d)
    (hq : Sql.Command.read? d (q.text d) = some q) :
    db.runBy a (.ofCommand d q vs) =
      db.perform q (a.convertAll (db.placeholderTypes q) (vs.map Value.stored)) := by
  rw [runBy, Statement.ofCommand, hd, hq]

/-- A row that is added to a table has what is assigned to its columns, and a key that is not taken. -/
theorem insert_eq_ok {table : String} {columns : List String} {values : List Value} {new : Database}
    (h : db.insert table columns values = .ok new) :
    ∃ t, db.table? table = some t ∧
      (∀ key, t.key.bind (t.column? db.rule) = some key →
        t.keyTaken db.rule key.name (Table.assigned db.rule columns values key) = false) ∧
      new = db.update table (·.addRow (Table.assigned db.rule columns values)) := by
  unfold insert at h
  split at h
  · cases h
  · next t ht =>
    split at h
    · cases h
    · cases hkey : t.key.bind (t.column? db.rule) with
      | none =>
        rw [hkey] at h
        cases h
        exact ⟨t, ht, by simp [hkey], rfl⟩
      | some key =>
        rw [hkey] at h
        dsimp only at h
        split at h
        · cases h
        · next hfree =>
          cases h
          refine ⟨t, ht, ?_, rfl⟩
          intro key' hkey'
          obtain rfl : key = key' := Option.some.inj (hkey.symm.trans hkey')
          simpa using hfree

/-! ## Dialogues -/

theorem dialect_perform {q : Sql.Command} {vs : List Value} :
    (db.perform q vs).2.dialect = db.dialect := by
  cases q with
  | createTable table key => exact dialect_createTable
  | addColumn table column type =>
    rw [perform]
    cases hadd : db.addColumn table ⟨column, type⟩ with
    | error e => rfl
    | ok new =>
      obtain ⟨-, -, -, rfl⟩ := addColumn_eq_ok hadd
      rfl
  | insert table columns =>
    rw [perform]
    cases hinsert : db.insert table columns vs with
    | error e => rfl
    | ok new =>
      obtain ⟨-, -, -, rfl⟩ := insert_eq_ok hinsert
      rfl
  | select s => rfl
  | listColumns =>
    rcases vs with _ | ⟨v, vs⟩
    · rfl
    · cases v <;> rfl
  | echo names => rfl

theorem dialect_answerBy {c : Call} : (answerBy a c db).2.dialect = db.dialect := by
  rw [snd_answerBy, runBy]
  cases Sql.Command.read? db.dialect c.statement.sql with
  | none => rfl
  | some q => exact dialect_perform

theorem dialect_run {α : Type} (x : Dialogue α) :
    (x.run (answerBy a) db).2.dialect = db.dialect := by
  induction x generalizing db with
  | done b => rfl
  | call c next ih => exact (ih _).trans dialect_answerBy

/-- Statements that bring a table up to a schema leave no value to be converted. -/
theorem answerBy_eq_answer {c : Call} {q : Sql.Command} {vs : List Value} (hd : db.dialect = d)
    (hq : q.Configures) (hc : c.statement = .ofCommand d q vs) : answerBy a c db = answer c db := by
  have htypes : db.placeholderTypes q = [] := by
    cases q <;> first | rfl | exact hq.elim
  have hrun : db.runBy a c.statement = db.run c.statement := by
    rw [hc, runBy_ofCommand hd (Sql.Command.read?_text hq), htypes, ← hd, run_ofCommand q hq]
    cases vs <;> rfl
  cases c with
  | execute s =>
    have hs : db.runBy a s = db.run s := hrun
    rw [answerBy, hs]
    rfl
  | query s =>
    have hs : db.runBy a s = db.run s := hrun
    rw [answerBy, hs]
    rfl

end Database

end SqlAdapter
