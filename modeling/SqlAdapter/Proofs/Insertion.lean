import SqlAdapter.Datasource.Rows
import SqlAdapter.Proofs.Transcript

/-!
# Inserting a record

A record is inserted by one statement, and a second one asks for the stored row only if the
acknowledgment did not echo it. `Insertion` lists the conversations that can take place, each with the
result and with the model afterwards: cached results are stale from the acknowledgment on. Main
statement: every run is one of these conversations, and a row that it gives came from the database.
-/

set_option autoImplicit false

namespace SqlAdapter

/-- The rows that a reply carries. -/
def Exchange.rows : Exchange → List Record
  | ⟨.execute _, .ok (.rows rs)⟩ => rs
  | ⟨.query _, .ok rs⟩ => rs
  | _ => []

/-- The first row of an acknowledgment with rows, if that row has the primary key. -/
def Ack.Echoes (ack : Ack) (primaryKey : String) (row : Record) : Prop :=
  ∃ rs, ack = .rows (row :: rs) ∧ row.contains primaryKey

namespace Model

variable (m : Model)

/-- Criteria for the rows whose primary key has the given value. -/
def withKey (key : Value) : Criteria where
  filter := some (.atom (.compare m.primaryKey .eq key))

/-- What the answer to the question for the stored row comes to. -/
def stored : Except Error (List Record) → Except Error Record
  | .ok (row :: _) => .ok row
  | .ok [] => .error (.driverInconsistency m.table "inserted row not found by primary key")
  | .error e => .error e

end Model

/-- The conversations in which a record is inserted. -/
inductive Insertion (d : Dialect) (m : Model) (r : Record) :
    List Exchange → Except Error Record × Model → Prop
  | empty (hr : r.isEmpty) :
    Insertion d m r [] (.error (.compile (.emptyRecord m.table)), m)
  | refused (hr : ¬r.isEmpty) (e : Error) :
    Insertion d m r [⟨.execute (.ofCommand d (.insert m.table r.names) r.values), .error e⟩]
      (.error e, m)
  | echoed (hr : ¬r.isEmpty) (ack : Ack) (row : Record) (hrow : ack.Echoes m.primaryKey row) :
    Insertion d m r [⟨.execute (.ofCommand d (.insert m.table r.names) r.values), .ok ack⟩]
      (.ok row, { m with generation := m.generation.map (· + 1) })
  | keyless (hr : ¬r.isEmpty) (ack : Ack) (hrow : ∀ row, ¬ack.Echoes m.primaryKey row)
    (hkey : r.get? m.primaryKey = none) :
    Insertion d m r [⟨.execute (.ofCommand d (.insert m.table r.names) r.values), .ok ack⟩]
      (.error (.driverInconsistency m.table
        ("record has no '" ++ m.primaryKey ++ "' value to read the row back")),
        { m with generation := m.generation.map (· + 1) })
  | readBack (hr : ¬r.isEmpty) (ack : Ack) (hrow : ∀ row, ¬ack.Echoes m.primaryKey row) (key : Value)
    (hkey : r.get? m.primaryKey = some key) (q : Statement)
    (hq : Statement.select d m.table (m.withKey key) = .ok q) (reply : Except Error (List Record)) :
    Insertion d m r
      [⟨.execute (.ofCommand d (.insert m.table r.names) r.values), .ok ack⟩, ⟨.query q, reply⟩]
      (m.stored reply, { m with generation := m.generation.map (· + 1) })

theorem Statement.select_withKey (d : Dialect) (m : Model) (key : Value) :
    Statement.select d m.table (m.withKey key) =
      .ok (Statement.lookup d m.table m.primaryKey key) := rfl

namespace Datasource

variable {ds : Datasource} {m : Model} {r : Record} {ack : Ack} {row : Record} {key : Value}

theorem echoed?_eq_some_iff {primaryKey : String} :
    echoed? primaryKey ack = some row ↔ ack.Echoes primaryKey row := by
  constructor
  · intro h
    unfold echoed? at h
    split at h
    · case h_1 first rs =>
      split at h
      · case isTrue hkey =>
        cases h
        exact ⟨rs, rfl, hkey⟩
      · cases h
    · cases h
  · rintro ⟨rs, rfl, hkey⟩
    exact if_pos hkey

theorem readBack_of_keyless (hkey : r.get? m.primaryKey = none) :
    (ds.readBack m r).run = .done (.error (.driverInconsistency m.table
      ("record has no '" ++ m.primaryKey ++ "' value to read the row back"))) := by
  unfold readBack
  rw [hkey]
  rfl

theorem readBack_of_key (hkey : r.get? m.primaryKey = some key) :
    (ds.readBack m r).run =
      .call (.query (Statement.lookup ds.dialect m.table m.primaryKey key)) fun reply =>
        .done (m.stored reply) := by
  unfold readBack
  rw [hkey]
  show Attempt.query _ >>= _ = _
  rw [Attempt.bind_eq]
  show Dialogue.call _ _ = _
  congr 1
  funext reply
  rcases reply with e | _ | ⟨row, rs⟩ <;> rfl

/-- How an insertion goes on once it has been acknowledged. -/
def acknowledged (ds : Datasource) (m : Model) (r : Record) (ack : Ack) :
    Dialogue (Except Error Record × Model) :=
  match echoed? m.primaryKey ack with
  | some row => .done (.ok row, m.invalidate)
  | none => Dialogue.bind (ds.readBack m r).run fun row => .done (row, m.invalidate)

theorem acknowledged_of_echoes (hrow : ack.Echoes m.primaryKey row) :
    ds.acknowledged m r ack = .done (.ok row, m.invalidate) := by
  rw [acknowledged, echoed?_eq_some_iff.2 hrow]

theorem acknowledged_of_not_echoes (hrow : ∀ row, ¬ack.Echoes m.primaryKey row) :
    ds.acknowledged m r ack =
      Dialogue.bind (ds.readBack m r).run fun row => .done (row, m.invalidate) := by
  have hnone : echoed? m.primaryKey ack = none := by
    refine Option.eq_none_iff_forall_ne_some.2 fun row h => ?_
    exact hrow row (echoed?_eq_some_iff.1 h)
  rw [acknowledged, hnone]

theorem insertRecord_of_empty (hr : r.isEmpty) :
    ds.insertRecord m r = .done (.error (.compile (.emptyRecord m.table)), m) := by
  rw [insertRecord, Statement.insert, if_pos hr]

theorem insertRecord_of_nonempty (hr : ¬r.isEmpty) :
    ds.insertRecord m r =
      .call (.execute (.ofCommand ds.dialect (.insert m.table r.names) r.values)) fun
        | .error e => .done (.error e, m)
        | .ok ack => ds.acknowledged m r ack := by
  rw [insertRecord, Statement.insert, if_neg hr]
  show Dialogue.call _ _ = _
  congr 1
  funext reply
  rcases reply with e | ack <;> rfl

theorem insertion_of_yields {es : List Exchange} {out : Except Error Record × Model}
    (h : (ds.insertRecord m r).Yields es out) : Insertion ds.dialect m r es out := by
  by_cases hr : r.isEmpty
  · rw [insertRecord_of_empty hr] at h
    obtain ⟨rfl, rfl⟩ := h
    exact .empty hr
  rw [insertRecord_of_nonempty hr] at h
  obtain ⟨e | ack, rest, rfl, h⟩ := h
  · obtain ⟨rfl, rfl⟩ := h
    exact .refused hr e
  by_cases hrow : ∃ row, ack.Echoes m.primaryKey row
  · obtain ⟨row, hrow⟩ := hrow
    simp only [acknowledged_of_echoes hrow] at h
    obtain ⟨rfl, rfl⟩ := h
    exact .echoed hr ack row hrow
  have hrow := not_exists.1 hrow
  simp only [acknowledged_of_not_echoes hrow] at h
  cases hkey : r.get? m.primaryKey with
  | none =>
    rw [readBack_of_keyless hkey] at h
    obtain ⟨rfl, rfl⟩ := h
    exact .keyless hr ack hrow hkey
  | some key =>
    rw [readBack_of_key hkey] at h
    obtain ⟨reply, rest, rfl, rfl, rfl⟩ := h
    exact .readBack hr ack hrow key hkey _ (Statement.select_withKey ..) reply

end Datasource

/-- A row that an insertion gives is one of those that the database sent. -/
theorem Insertion.supplied {d : Dialect} {m : Model} {r row : Record} {es : List Exchange}
    {out : Except Error Record × Model} (h : Insertion d m r es out) (hrow : out.1 = .ok row) :
    ∃ e ∈ es, row ∈ e.rows := by
  cases h with
  | empty | refused | keyless => cases hrow
  | echoed hr ack row' hecho =>
    cases hrow
    obtain ⟨rs, rfl, -⟩ := hecho
    exact ⟨_, List.mem_cons_self, List.mem_cons_self⟩
  | readBack hr ack hecho key hkey q hq reply =>
    rcases reply with e | _ | ⟨first, rs⟩ <;> cases hrow
    exact ⟨_, List.mem_cons_of_mem _ List.mem_cons_self, List.mem_cons_self⟩

/-- Every run of an insertion is one of its conversations, whatever the database answers, and gives no
row but one that the database sent. -/
theorem Datasource.insertRecord_converses {σ : Type} (ds : Datasource) (m : Model) (r : Record)
    (answer : (c : Call) → σ → c.Reply × σ) (s : σ) :
    Insertion ds.dialect m r ((ds.insertRecord m r).transcript answer s)
        ((ds.insertRecord m r).run answer s).1 ∧
      ∀ row, ((ds.insertRecord m r).run answer s).1.1 = .ok row →
        ∃ e ∈ (ds.insertRecord m r).transcript answer s, row ∈ e.rows := by
  have h := insertion_of_yields (Dialogue.yields_run answer (ds.insertRecord m r) s)
  exact ⟨h, fun row hrow => h.supplied hrow⟩

/-- A database that acknowledges with a number alone and finds the same rows for every question. -/
def counting (rows : List Record) : (c : Call) → Unit → c.Reply × Unit
  | .execute _, s => (.ok (.affected 1), s)
  | .query _, s => (.ok rows, s)

theorem Datasource.insertRecord_converses_counting :
    let m : Model := { table := "people", generation := some 7 }
    let r := Record.ofList [("_id", .text "a"), ("name", .text "Ada")]
    let talk := (Datasource.mk .sqlite false).insertRecord m r
    (talk.run (counting [r]) ()).1 = (.ok r, { m with generation := some 8 }) ∧
      (talk.transcript (counting [r]) ()).map Exchange.call =
        [.execute ⟨"INSERT INTO \x60people\x60 (\x60_id\x60, \x60name\x60) VALUES (?, ?)",
            [.text "a", .text "Ada"]⟩,
          .query ⟨"SELECT * FROM \x60people\x60 WHERE \x60_id\x60 = ?", [.text "a"]⟩] ∧
      ∃ e ∈ talk.transcript (counting [r]) (), r ∈ e.rows := by
  refine ⟨rfl, by decide +kernel, ?_⟩
  exact (insertRecord_converses _ _ _ (counting _) ()).2 _ rfl

end SqlAdapter
