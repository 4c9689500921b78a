import SqlAdapter.Proofs.Database.Affinity

/-!
# Tables with a key

A table that is created for a model has its key column first and no other column of its name. Nothing
that a database is asked afterwards changes this: columns come after the others under names that are free,
and rows are added at the end.
-/

set_option autoImplicit false

namespace SqlAdapter

section

variable {α : Type} {p q : α → Bool} {f : α → α}

/-- A search in a list of which one element has been replaced finds what it found before, or what has come
in its place. -/
theorem find?_modify_cases (l : List α) (h : ∀ a, p (f a) = p a) :
    (l.modify (l.findIdx q) f).find? p = l.find? p ∨
      ∃ a, l.find? p = some a ∧ l.find? q = some a ∧
        (l.modify (l.findIdx q) f).find? p = some (f a) := by
  induction l with
  | nil => exact .inl rfl
  | cons a l ih =>
    cases hq : q a with
    | true =>
      have hreplaced : (a :: l).modify ((a :: l).findIdx q) f = f a :: l := by
        simp [List.findIdx_cons, hq]
      rw [hreplaced]
      cases hp : p a with
      | true => exact .inr ⟨a, by simp [hp], by simp [hq], by simp [h, hp]⟩
      | false => exact .inl (by simp [h, hp])
    | false =>
      have hkept : (a :: l).modify ((a :: l).findIdx q) f = a :: l.modify (l.findIdx q) f := by
        simp [List.findIdx_cons, hq]
      rw [hkept]
      cases hp : p a with
      | true => exact .inl (by simp [hp])
      | false =>
        rcases ih with hsame | ⟨b, hpb, hqb, hnew⟩
        · exact .inl (by simp [hp, hsame])
        · exact .inr ⟨b, by simp [hp, hpb], by simp [hq, hqb], by simp [hp, hnew]⟩

end

namespace Table

variable {rule : NameRule} {key c : Column} {t : Table} {content : Column → Value}
  {row : List Value}

/-- The key is the first column, and the names of the others are different. -/
structure KeyedBy (rule : NameRule) (key : Column) (t : Table) : Prop where
  key_eq : t.key = some key.name
  first : ∃ others, t.columns = key :: others ∧ ∀ c ∈ others, rule.same key.name c.name = false

theorem keyedBy_fresh {name : String} : KeyedBy rule key (.fresh name [key] (some key.name)) where
  key_eq := rfl
  first := ⟨[], rfl, fun _ h => absurd h List.not_mem_nil⟩

namespace KeyedBy

variable (h : t.KeyedBy rule key)

include h

theorem addColumn (hc : t.has rule c.name = false) : (t.addColumn c).KeyedBy rule key := by
  obtain ⟨others, hcolumns, hothers⟩ := h.first
  refine ⟨h.key_eq, others ++ [c], ?_, ?_⟩
  · show t.columns ++ [c] = _
    rw [hcolumns, List.cons_append]
  · rw [List.forall_mem_append, List.forall_mem_singleton]
    refine ⟨hothers, ?_⟩
    simp only [has, column?, hcolumns, Option.isSome_eq_false_iff, Option.isNone_iff_eq_none,
      List.find?_eq_none, List.forall_mem_cons] at hc
    simpa using hc.1

theorem addRow : (t.addRow content).KeyedBy rule key := ⟨h.key_eq, h.first⟩

theorem column?_key : t.column? rule key.name = some key := by
  obtain ⟨others, hcolumns, -⟩ := h.first
  simp [column?, hcolumns]

theorem read_key_content : t.read rule (t.columns.map content) key.name = content key := by
  obtain ⟨others, hcolumns, -⟩ := h.first
  simp [read, hcolumns]

theorem get?_record (hrow : row.length = t.columns.length) :
    (t.record row).get? key.name = some (t.read rule row key.name) := by
  obtain ⟨others, hcolumns, hothers⟩ := h.first
  cases row with
  | nil => simp [hcolumns] at hrow
  | cons v vs =>
    have hread : t.read rule (v :: vs) key.name = v := by simp [read, hcolumns]
    have hfree : ∀ e ∈ (others.map Column.name).zip vs, e.1 ≠ key.name := by
      intro e he hsame
      obtain ⟨c, hc, hname⟩ := List.mem_map.1 (List.of_mem_zip he).1
      have hdiffer := hothers c hc
      rw [hname, hsame, NameRule.same_refl] at hdiffer
      cases hdiffer
    rw [hread, record, hcolumns, List.map_cons, List.zip_cons_cons]
    exact Keyed.get?_ofList_of_last [] hfree

end KeyedBy

end Table

namespace Database

variable {a : Affinity} {db : Database} {table : String} {key : Column} {t : Table}
  {α : Type}

/-- The database has the table with the key. -/
def HasKeyed (db : Database) (table : String) (key : Column) : Prop :=
  ∃ t, db.table? table = some t ∧ t.KeyedBy db.rule key

theorem hasKeyed_createTable (hnone : db.table? table = none) {name : String} :
    (db.createTable table name).HasKeyed table ⟨name, db.dialect.keyType⟩ := by
  refine ⟨.fresh table [⟨name, db.dialect.keyType⟩] (some name), ?_, Table.keyedBy_fresh⟩
  unfold createTable
  rw [hnone]
  unfold table? at hnone ⊢
  rw [List.find?_append, hnone]
  simp [Table.fresh]

theorem HasKeyed.update {name : String} {f : Table → Table} (h : db.HasKeyed table key)
    (hname : ∀ t, (f t).name = t.name)
    (hf : ∀ t, db.table? name = some t → t.KeyedBy db.rule key → (f t).KeyedBy db.rule key) :
    (db.update name f).HasKeyed table key := by
  obtain ⟨t, ht, hkeyed⟩ := h
  have hsame : ∀ t, db.rule.same (f t).name table = db.rule.same t.name table := fun t => by rw [hname]
  rcases @find?_modify_cases _ (fun t => db.rule.same t.name table)
      (fun t => db.rule.same t.name name) f db.tables hsame with hkept | ⟨t', htable, hfound, hnew⟩
  · exact ⟨t, hkept.trans ht, hkeyed⟩
  · obtain rfl : t' = t := Option.some.inj (htable.symm.trans ht)
    exact ⟨f t', hnew, hf t' hfound hkeyed⟩

theorem HasKeyed.settle {rows : UInt64} {r : Except DriverFault Database} (h : db.HasKeyed table key)
    (hr : ∀ new, r = .ok new → new.HasKeyed table key) : (db.settle rows r).2.HasKeyed table key := by
  cases r with
  | error e => exact h
  | ok new => exact hr new rfl

theorem HasKeyed.createTable (h : db.HasKeyed table key) (name k : String) :
    (db.createTable name k).HasKeyed table key := by
  obtain ⟨t, ht, hkeyed⟩ := h
  refine ⟨t, ?_, ?_⟩
  · unfold Database.createTable
    split
    · exact ht
    · unfold table? at ht ⊢
      rw [List.find?_append, ht]
      rfl
  · rw [rule_createTable]
    exact hkeyed

theorem HasKeyed.perform (h : db.HasKeyed table key) (q : Sql.Command) (vs : List Value) :
    (db.perform q vs).2.HasKeyed table key := by
  cases q with
  | createTable name k => exact h.createTable name k
  | addColumn name column type =>
    refine h.settle fun new hnew => ?_
    obtain ⟨t, ht, hfree, rfl⟩ := addColumn_eq_ok hnew
    refine h.update (fun _ => rfl) fun t' ht' hkeyed => hkeyed.addColumn ?_
    obtain rfl : t = t' := Option.some.inj (ht.symm.trans ht')
    exact hfree
  | insert name columns =>
    refine h.settle fun new hnew => ?_
    obtain ⟨-, -, -, rfl⟩ := insert_eq_ok hnew
    exact h.update (fun _ => rfl) fun _ _ hkeyed => hkeyed.addRow
  | select s => exact h
  | listColumns =>
    rcases vs with _ | ⟨v, vs⟩
    · exact h
    · cases v <;> exact h
  | echo names => exact h

theorem HasKeyed.answerBy (h : db.HasKeyed table key) (c : Call) :
    (Database.answerBy a c db).2.HasKeyed table key := by
  rw [snd_answerBy, runBy]
  cases Sql.Command.read? db.dialect c.statement.sql with
  | none => exact h
  | some q => exact h.perform q _

/-- Whatever the database is asked, the table keeps its key. -/
theorem HasKeyed.run (h : db.HasKeyed table key) (x : Dialogue α) :
    (x.run (Database.answerBy a) db).2.HasKeyed table key := by
  induction x generalizing db with
  | done b => exact h
  | call c next ih => exact ih _ (h.answerBy c)

end Database

end SqlAdapter
