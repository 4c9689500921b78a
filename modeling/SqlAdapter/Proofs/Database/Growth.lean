import SqlAdapter.Proofs.Database.KeyedTables
import SqlAdapter.Proofs.Database.Servers

/-!
# Growth

What a command does to a database is to add to it: tables after the others, columns after the old ones
with null in every row that is there, and rows after the old ones. `Grows` says so of tables and of
databases, and counts the new rows. Growing is transitive, so what one command adds can be summed up over
a run.
-/

set_option autoImplicit false

namespace SqlAdapter

theorem NameRule.same_congr {rule : NameRule} {m n : String} (h : rule.same m n = true) (s : String) :
    rule.same s m = rule.same s n := by
  cases rule with
  | exact =>
    have hmn : m = n := by simpa [same] using h
    rw [hmn]
  | ignoringCase =>
    have hfold : Text.fold m = Text.fold n := Text.sameIgnoringCase_iff.1 h
    rw [Bool.eq_iff_iff]
    simp only [same, Text.sameIgnoringCase_iff, hfold]

namespace Table

variable {n k : Nat} {t t' t'' : Table} {c : Column} {content : Column → Value}

/-- A table after some columns and a number of rows have been added. The old rows have null in the new
columns. -/
structure Grows (added : Nat) (old new : Table) : Prop where
  name : new.name = old.name
  key : new.key = old.key
  content : ∃ columns rows, new.columns = old.columns ++ columns ∧
    new.rows = old.rows.map (· ++ List.replicate columns.length .null) ++ rows ∧ rows.length = added

theorem Grows.refl (t : Table) : t.Grows 0 t where
  name := rfl
  key := rfl
  content := ⟨[], [], by simp, by simp, rfl⟩

theorem Grows.trans (h : Grows n t t') (h' : Grows k t' t'') : Grows (n + k) t t'' where
  name := h'.name.trans h.name
  key := h'.key.trans h.key
  content := by
    obtain ⟨columns, rows, hcolumns, hrows, hn⟩ := h.content
    obtain ⟨columns', rows', hcolumns', hrows', hk⟩ := h'.content
    -- the rows of the first part have null in the columns of the second
    refine ⟨columns ++ columns',
      rows.map (· ++ List.replicate columns'.length .null) ++ rows', ?_, ?_, ?_⟩
    · rw [hcolumns', hcolumns, List.append_assoc]
    · rw [hrows', hrows, List.map_append, List.map_map, List.append_assoc, List.length_append,
        List.replicate_add]
      simp [Function.comp_def]
    · rw [List.length_append, List.length_map, hn, hk]

theorem grows_addColumn (t : Table) (c : Column) : Grows 0 t (t.addColumn c) where
  name := rfl
  key := rfl
  content := ⟨[c], [], rfl, by simp [addColumn], rfl⟩

theorem grows_addRow (t : Table) (content : Column → Value) : Grows 1 t (t.addRow content) where
  name := rfl
  key := rfl
  content := ⟨[], [t.columns.map content], by simp [addRow], by simp [addRow], rfl⟩

theorem Grows.length_rows (h : Grows n t t') : t'.rows.length = t.rows.length + n := by
  obtain ⟨columns, rows, -, hrows, hn⟩ := h.content
  rw [hrows, List.length_append, List.length_map, hn]

end Table

/-- How many rows a command adds to the table of a name. -/
def Sql.Command.adds (rule : NameRule) (name : String) : Sql.Command → Nat
  | insert table _ => if rule.same table name then 1 else 0
  | _ => 0

/-- The commands that leave tables and columns as they are. -/
def Sql.Command.KeepsLayout : Sql.Command → Prop
  | createTable .. | addColumn .. => False
  | _ => True

namespace Database

variable {db old mid new : Database} {m n : String → Nat} {table name : String} {q : Sql.Command}

/-- The number of rows of a table; one that does not exist has none. -/
def rowCount (db : Database) (name : String) : Nat :=
  ((db.table? name).map fun t => t.rows.length).getD 0

/-- The names of the tables, each with the columns of the table. -/
def layout (db : Database) : List (String × List Column) := db.tables.map fun t => (t.name, t.columns)

/-- A database after tables, columns and rows have been added: each table has grown by its number of new
rows, and these are all the rows of a new table. -/
structure Grows (added : String → Nat) (old new : Database) : Prop where
  dialect : new.dialect = old.dialect
  rule : new.rule = old.rule
  kept {name : String} {t : Table} (ht : old.table? name = some t) :
    ∃ t', new.table? name = some t' ∧ t.Grows (added name) t'
  created {name : String} (hnone : old.table? name = none) : new.rowCount name = added name

theorem Grows.refl (db : Database) : db.Grows (fun _ => 0) db where
  dialect := rfl
  rule := rfl
  kept ht := ⟨_, ht, .refl _⟩
  created hnone := by rw [rowCount, hnone]; rfl

theorem Grows.rowCount (h : Grows n old new) (name : String) :
    new.rowCount name = old.rowCount name + n name := by
  cases ht : old.table? name with
  | none =>
    rw [h.created ht, Database.rowCount, ht]
    exact (Nat.zero_add _).symm
  | some t =>
    obtain ⟨t', ht', hgrows⟩ := h.kept ht
    rw [Database.rowCount, Database.rowCount, ht, ht']
    exact hgrows.length_rows

theorem Grows.trans (h : Grows m old mid) (h' : Grows n mid new) :
    Grows (fun name => m name + n name) old new where
  dialect := h'.dialect.trans h.dialect
  rule := h'.rule.trans h.rule
  kept ht := by
    obtain ⟨t', ht', hgrows⟩ := h.kept ht
    obtain ⟨t'', ht'', hgrows'⟩ := h'.kept ht'
    exact ⟨t'', ht'', hgrows.trans hgrows'⟩
  created hnone := by rw [h'.rowCount, h.created hnone]

/-! ## What one command adds -/

variable {f : Table → Table} {k : Nat}

theorem table?_update_same (hname : ∀ t, (f t).name = t.name) (h : db.rule.same table name = true) :
    (db.update table f).table? name = (db.table? name).map f := by
  have hsame : (fun t : Table => db.rule.same t.name table) =
      fun t : Table => db.rule.same t.name name := by
    funext t
    exact NameRule.same_congr h t.name
  unfold update table?
  rw [hsame]
  apply find?_modify_findIdx
  intro t
  rw [hname]

theorem table?_update_other (hname : ∀ t, (f t).name = t.name) (h : db.rule.same table name = false) :
    (db.update table f).table? name = db.table? name := by
  have hkeeps : ∀ t, db.rule.same (f t).name name = db.rule.same t.name name := by
    intro t
    rw [hname]
  rcases @find?_modify_cases _ (fun t => db.rule.same t.name name)
      (fun t => db.rule.same t.name table) f db.tables hkeeps with hkept | ⟨t, ht, htable, -⟩
  · exact hkept
  · -- a table of both names would make the names the same
    have hfirst : db.rule.same t.name name = true := by simpa using List.find?_some ht
    have hsecond : db.rule.same t.name table = true := by simpa using List.find?_some htable
    have hboth : db.rule.same table name = db.rule.same table table := by
      rw [← NameRule.same_congr hfirst, NameRule.same_congr hsecond]
    rw [h, NameRule.same_refl] at hboth
    cases hboth

theorem grows_update (hthere : (db.table? table).isSome) (hf : ∀ t, Table.Grows k t (f t)) :
    db.Grows (fun name => if db.rule.same table name then k else 0) (db.update table f) where
  dialect := rfl
  rule := rfl
  kept {name t} ht := by
    cases hsame : db.rule.same table name with
    | true =>
      refine ⟨f t, ?_, hf t⟩
      rw [table?_update_same (fun t => (hf t).name) hsame, ht]
      rfl
    | false =>
      refine ⟨t, ?_, .refl t⟩
      rw [table?_update_other (fun t => (hf t).name) hsame, ht]
  created {name} hnone := by
    cases hsame : db.rule.same table name with
    | true =>
      -- the table that is there goes by this name too
      have hfind : db.table? table = db.table? name := by
        unfold table?
        congr 1
        funext t
        exact NameRule.same_congr hsame t.name
      rw [hfind, hnone] at hthere
      cases hthere
    | false =>
      rw [rowCount, table?_update_other (fun t => (hf t).name) hsame, hnone]
      rfl

theorem grows_createTable (db : Database) (table key : String) :
    db.Grows (fun _ => 0) (db.createTable table key) where
  dialect := dialect_createTable
  rule := rule_createTable
  kept {name t} ht := by
    refine ⟨t, ?_, .refl t⟩
    unfold createTable
    split
    · exact ht
    · unfold table? at ht ⊢
      rw [List.find?_append, ht]
      rfl
  created {name} hnone := by
    unfold createTable
    split
    · rw [rowCount, hnone]
      rfl
    · unfold table? at hnone
      unfold rowCount table?
      rw [List.find?_append, hnone, Option.none_or]
      -- the new table is found or it is not, and has no rows
      cases hfresh : db.rule.same table name with
      | true => simp [Table.fresh, hfresh]
      | false => simp [Table.fresh, hfresh]

/-- A command that is carried out adds the rows that it inserts. -/
theorem Effect.grows (h : db.Effect q new) : db.Grows (fun name => q.adds db.rule name) new := by
  cases h with
  | createTable => exact grows_createTable db _ _
  | @addColumn table column type hthere =>
    have hgrows := grows_update hthere fun t => t.grows_addColumn ⟨column, type⟩
    simpa [Sql.Command.adds] using hgrows
  | insert hthere content => exact grows_update hthere fun t => t.grows_addRow content
  | listColumns | select => exact .refl db

theorem Effect.layout_eq (h : db.Effect q new) (hq : q.KeepsLayout) : new.layout = db.layout := by
  cases h with
  | createTable | addColumn => exact hq.elim
  | insert hthere content =>
    apply List.ext_getElem?
    intro i
    unfold layout update
    simp only [List.getElem?_map, List.getElem?_modify]
    cases db.tables[i]? with
    | none => rfl
    | some t =>
      simp only [Option.map_some]
      split <;> rfl
  | listColumns | select => rfl

end Database

end SqlAdapter
