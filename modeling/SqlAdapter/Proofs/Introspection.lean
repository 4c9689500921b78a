import SqlAdapter.Proofs.Configuration
import SqlAdapter.Proofs.Decision
import SqlAdapter.Script

/-!
# Introspection

What the reply says when the columns of a table are asked for. Every row must have a text for a name and a
text or null for a type. Main statement: either all rows are columns, or none of them counts, and whoever
asked sends nothing more and changes no model.
-/

set_option autoImplicit false

namespace SqlAdapter

/-! ## Rows -/

namespace Column

variable {row : Record} {key name type : String}

/-- A row lists a column; one of no type has null for it. -/
inductive Lists (row : Record) : Column → Prop
  | typed {name type : String} (hname : row.get? "name" = some (.text name))
    (htype : row.get? "type" = some (.text type)) : Lists row ⟨name, type⟩
  | untyped {name : String} (hname : row.get? "name" = some (.text name))
    (htype : row.get? "type" = some .null) : Lists row ⟨name, ""⟩

/-- What a row must have to list a column, and does not; the name comes first. -/
inductive Lacks (row : Record) : String → Prop
  | name (hname : ∀ s, row.get? "name" ≠ some (.text s)) : Lacks row "name"
  | type {name : String} (hname : row.get? "name" = some (.text name))
    (htype : ∀ s, row.get? "type" ≠ some (.text s)) (hnull : row.get? "type" ≠ some .null) :
    Lacks row "type"

theorem part?_name_eq_some_iff : part? "name" row = some name ↔ row.get? "name" = some (.text name) := by
  unfold part?
  cases row.get? "name" with
  | none => simp
  | some v => cases v <;> simp

theorem part?_type_eq_some_iff : part? "type" row = some type ↔
    row.get? "type" = some (.text type) ∨ row.get? "type" = some .null ∧ type = "" := by
  unfold part?
  cases row.get? "type" with
  | none => simp
  | some v => cases v <;> simp [eq_comm]

theorem lists_iff {c : Column} :
    Lists row c ↔ part? "name" row = some c.name ∧ part? "type" row = some c.type := by
  rw [part?_name_eq_some_iff, part?_type_eq_some_iff]
  constructor
  · rintro (⟨hname, htype⟩ | ⟨hname, htype⟩)
    · exact ⟨hname, .inl htype⟩
    · exact ⟨hname, .inr ⟨htype, rfl⟩⟩
  · rintro ⟨hname, htype | ⟨htype, hempty⟩⟩
    · exact .typed hname htype
    · obtain ⟨name, type⟩ := c
      cases hempty
      exact .untyped hname htype

theorem lacks_iff : Lacks row key ↔
    part? "name" row = none ∧ key = "name" ∨
      (part? "name" row).isSome ∧ part? "type" row = none ∧ key = "type" := by
  simp only [Option.isSome_iff_exists, part?_name_eq_some_iff, Option.eq_none_iff_forall_ne_some,
    part?_type_eq_some_iff, ne_eq, not_or, not_and]
  constructor
  · rintro (hname | ⟨hname, htype, hnull⟩)
    · exact .inl ⟨hname, rfl⟩
    · exact .inr ⟨⟨_, hname⟩, fun s => ⟨htype s, fun h => absurd h hnull⟩, rfl⟩
  · rintro (⟨hname, rfl⟩ | ⟨⟨name, hname⟩, htype, rfl⟩)
    · exact .name hname
    · exact .type hname (fun s => (htype s).1) fun h => (htype "").2 h rfl

theorem computes_row (table : String) (row : Record) :
    Computes (ofRow table row) (Lists row) fun e => ∃ key, Lacks row key ∧
      e = .driverInconsistency table ("introspection row has no textual '" ++ key ++ "' column") := by
  unfold ofRow missing
  constructor
  · rintro ⟨name, type⟩
    rw [lists_iff]
    cases part? "name" row <;> cases part? "type" row <;> simp
  · intro e
    simp only [lacks_iff]
    cases part? "name" row <;> cases part? "type" row <;> simp [eq_comm]

end Column

/-! ## Replies -/

/-- The exchange lists the columns of a table, one for each row. -/
inductive Exchange.Lists (d : Dialect) (table : String) : Exchange → LiveSchema → Prop
  | rows {rows : List Record} {columns : List Column} (h : List.Forall₂ Column.Lists rows columns) :
    Lists d table ⟨.query (.listColumns d table), .ok rows⟩ ⟨columns⟩

/-- The exchange asks for the columns of a table in vain: it fails, or there is a row that lists none. The
first such row counts. -/
inductive Exchange.ListsInVain (d : Dialect) (table : String) : Exchange → Error → Prop
  | unanswered {e : Error} : ListsInVain d table ⟨.query (.listColumns d table), .error e⟩ e
  | row {before after : List Record} {row : Record} {key : String}
    (hbefore : ∀ r ∈ before, ∃ c, Column.Lists r c) (hrow : Column.Lacks row key) :
    ListsInVain d table ⟨.query (.listColumns d table), .ok (before ++ row :: after)⟩
      (.driverInconsistency table ("introspection row has no textual '" ++ key ++ "' column"))

section Replies

variable {d : Dialect} {table : String} {live : LiveSchema}

theorem LiveSchema.computes_rows (table : String) (rows : List Record) :
    Computes (ofRows table rows) (fun live => List.Forall₂ Column.Lists rows live.columns) fun e =>
      ∃ before row after, rows = before ++ row :: after ∧ (∀ r ∈ before, ∃ c, Column.Lists r c) ∧
        ∃ key, Column.Lacks row key ∧
          e = .driverInconsistency table
            ("introspection row has no textual '" ++ key ++ "' column") := by
  have hrows := Computes.mapM fun row (_ : row ∈ rows) => Column.computes_row table row
  apply (hrows.map LiveSchema.mk).congr
  · intro live
    constructor
    · rintro ⟨columns, h, rfl⟩
      exact h
    · exact fun h => ⟨_, h, rfl⟩
  · exact fun _ => Iff.rfl

theorem computes_listing (d : Dialect) (table : String) (r : Except Error (List Record)) :
    Computes (r.bind (LiveSchema.ofRows table))
      (Exchange.Lists d table ⟨.query (.listColumns d table), r⟩)
      (Exchange.ListsInVain d table ⟨.query (.listColumns d table), r⟩) := by
  cases r with
  | error e =>
    apply Computes.of_total
    · rintro live ⟨⟩
    · rintro e' ⟨⟩
      rfl
    · exact .inr ⟨e, .unanswered⟩
  | ok rows =>
    apply (LiveSchema.computes_rows table rows).congr
    · intro live
      constructor
      · exact .rows
      · rintro ⟨h⟩
        exact h
    · intro e
      constructor
      · rintro ⟨before, row, after, rfl, hbefore, key, hrow, rfl⟩
        exact .row hbefore hrow
      · intro h
        cases h with
        | row hbefore hrow => exact ⟨_, _, _, rfl, hbefore, _, hrow, rfl⟩

theorem exists_lists_iff {r : Except Error (List Record)} :
    (∃ live, Exchange.Lists d table ⟨.query (.listColumns d table), r⟩ live) ↔
      ∃ rows, r = .ok rows ∧ ∀ row ∈ rows, ∃ c, Column.Lists row c := by
  simp only [← exists_forall₂_iff]
  constructor
  · rintro ⟨_, ⟨h⟩⟩
    exact ⟨_, rfl, _, h⟩
  · rintro ⟨rows, rfl, columns, h⟩
    exact ⟨_, .rows h⟩

end Replies

/-! ## Dialogues -/

/-- Wherever in a dialogue the columns of a table are asked for in vain, nothing is sent any more, and the
dialogue ends with what `out` makes of the error. -/
def Dialogue.EndsInVain {α : Type} (d : Dialect) (table : String) (out : Error → α) (x : Dialogue α) :
    Prop :=
  ∀ (σ : Type) (answer : (c : Call) → σ → c.Reply × σ) (s : σ) (before after : List Exchange)
    (y : Exchange) (e : Error), x.transcript answer s = before ++ y :: after →
      y.ListsInVain d table e → after = [] ∧ (x.run answer s).1 = out e

namespace Datasource

variable {ds : Datasource} {d : Dialect} {table changed : String} {fs : List Field} {schema : Schema}
  {m : Model}

theorem halts_change (ds : Datasource) (changed : String) (st : Statement) :
    (ds.change changed st).Halts (Exchange.ListsInVain d table) .error := by
  unfold change
  split
  · trivial
  · intro r
    constructor
    · rintro e ⟨⟩
    · cases r <;> trivial

theorem halts_addColumns :
    (ds.addColumns changed fs).Halts (Exchange.ListsInVain d table) .error := by
  induction fs with
  | nil => trivial
  | cons f fs ih =>
    cases ht : Datatype.parse? f.descriptor.datatype with
    | none =>
      rw [addColumns_unknown ht]
      trivial
    | some t =>
      rw [addColumns_cons ht]
      apply (halts_change ds changed _).bind
      · intro r
        cases r with
        | error e => trivial
        | ok _ => exact ih.bind (fun _ => trivial) fun _ => rfl
      · exact fun _ => rfl

/-- The columns are asked for, and without them there is nothing to go on with. -/
theorem halts_listing {α : Type} {out : Error → α} {k : LiveSchema → Dialogue α}
    (hk : ∀ live, (k live).Halts (Exchange.ListsInVain d table) out) :
    (Dialogue.call (.query (.listColumns d table)) fun r =>
      match r.bind (LiveSchema.ofRows table) with
      | .error e => .done (out e)
      | .ok live => k live).Halts (Exchange.ListsInVain d table) out := by
  intro r
  dsimp only
  constructor
  · intro e he
    rw [((computes_listing d table r).error_iff e).2 he]
  · cases r.bind (LiveSchema.ofRows table) with
    | error e => trivial
    | ok live => exact hk live

theorem halts_reconcileColumns :
    (ds.reconcileColumns table schema).Halts (Exchange.ListsInVain ds.dialect table) .error := by
  rw [reconcileColumns_eq]
  exact halts_listing fun _ => halts_addColumns.bind (fun _ => trivial) fun _ => rfl

theorem halts_loadExternalSchema :
    (ds.loadExternalSchema m).Halts (Exchange.ListsInVain ds.dialect m.table) fun e => (.error e, m) := by
  rw [loadExternalSchema_eq]
  exact halts_listing fun _ => trivial

theorem halts_configureTable :
    (ds.configureTable m).Halts (Exchange.ListsInVain ds.dialect m.table) fun e => (.error e, m) := by
  cases hm : m.isExternal with
  | true =>
    rw [configureTable_external hm]
    exact halts_loadExternalSchema.bind (fun _ => trivial) fun _ => rfl
  | false =>
    rw [configureTable_eq hm]
    apply (halts_change ds m.table _).bind
    · intro r
      cases r with
      | error e => trivial
      | ok _ => exact halts_reconcileColumns.bind (fun _ => trivial) fun _ => rfl
    · exact fun _ => rfl

/-- The columns of a table are asked for once. They are known exactly if every row lists one, and then they
are what the rows list, in their order; otherwise the error is that of the reply, or names what the first
row that lists none lacks. Whoever asks on behalf of a schema or a model then sends nothing more and leaves
the model as it is. -/
theorem tableInfo_all_or_nothing (ds : Datasource) :
    (∀ (table : String) (σ : Type) (answer : (c : Call) → σ → c.Reply × σ) (s : σ),
      let listing : Call := .query (.listColumns ds.dialect table)
      let asked : Exchange := ⟨listing, (answer listing s).1⟩
      let result := Dialogue.run answer (ds.tableInfo table) s
      Dialogue.transcript answer (ds.tableInfo table) s = [asked] ∧
      (∀ live, result.1 = .ok live ↔ asked.Lists ds.dialect table live) ∧
      ((∃ live, result.1 = .ok live) ↔
        ∃ rows, (answer listing s).1 = .ok rows ∧ ∀ row ∈ rows, ∃ c, Column.Lists row c) ∧
      ∀ e, result.1 = .error e ↔ asked.ListsInVain ds.dialect table e) ∧
    (∀ table schema, (ds.reconcileColumns table schema).EndsInVain ds.dialect table .error) ∧
    (∀ m, (ds.loadExternalSchema m).EndsInVain ds.dialect m.table fun e => (.error e, m)) ∧
    ∀ m, (ds.configureTable m).EndsInVain ds.dialect m.table fun e => (.error e, m) := by
  refine ⟨?_, ?_, ?_, ?_⟩
  · intro table σ answer s listing asked result
    have hlisting := computes_listing ds.dialect table (answer listing s).1
    have hresult : result.1 = (answer listing s).1.bind (LiveSchema.ofRows table) := by
      show (Dialogue.run answer (ds.tableInfo table) s).1 = _
      rw [tableInfo_eq]
      rfl
    rw [hresult, tableInfo_eq, ← exists_lists_iff (d := ds.dialect)]
    exact ⟨rfl, hlisting.ok_iff, exists_congr hlisting.ok_iff, hlisting.error_iff⟩
  · intro table schema σ answer s before after y e htranscript hy
    exact halts_reconcileColumns.run htranscript hy
  · intro m σ answer s before after y e htranscript hy
    exact halts_loadExternalSchema.run htranscript hy
  · intro m σ answer s before after y e htranscript hy
    exact halts_configureTable.run htranscript hy

/-- A row with a null type lists a column. One that has neither a name nor a type in text keeps the columns of
a table from being added after the table was created, whatever is listed in front of it. -/
theorem tableInfo_all_or_nothing_people :
    let ds : Datasource := ⟨.sqlite, false⟩
    let schema : Schema := ⟨[⟨"age", ⟨"number", {}⟩⟩, ⟨"nick", ⟨"string", {}⟩⟩]⟩
    let m : Model := { table := "people", schema := schema }
    let named : Record := .ofList [("name", .text "_id"), ("type", .null)]
    let nameless : Record := .ofList [("name", .int 5), ("type", .bool true)]
    let listed : Script := ⟨[.rows [named]], []⟩
    let broken : Script := ⟨[.affected 0, .rows [named, nameless, named]], []⟩
    (Dialogue.run Script.answer (ds.tableInfo "people") listed).1 = .ok ⟨[⟨"_id", ""⟩]⟩ ∧
    ((ds.configureTable m).transcript Script.answer broken).map (fun y => y.call) =
      [.execute (.createTable .sqlite "people" "_id"), .query (.listColumns .sqlite "people")] ∧
    ((ds.configureTable m).run Script.answer broken).1 =
      (.error (.driverInconsistency "people" "introspection row has no textual 'name' column"), m) := by
  intro ds schema m named nameless listed broken
  obtain ⟨hlisted, -, -, hconfigured⟩ := tableInfo_all_or_nothing ds
  have hnamed : Column.Lists named ⟨"_id", ""⟩ := .untyped rfl rfl
  have hnameless : Column.Lacks nameless "name" :=
    .name fun s hname => nomatch (show some (Value.int 5) = some (.text s) from hname)
  have hbefore : ∀ r ∈ [named], ∃ c, Column.Lists r c := List.forall_mem_singleton.2 ⟨_, hnamed⟩
  have htranscript : (ds.configureTable m).transcript Script.answer broken =
      [⟨.execute (.createTable .sqlite "people" "_id"), .ok (.affected 0)⟩] ++
        ⟨.query (.listColumns .sqlite "people"), .ok [named, nameless, named]⟩ :: _ := rfl
  obtain ⟨hafter, hrun⟩ := hconfigured m Script Script.answer broken _ _ _ _ htranscript
    (.row hbefore hnameless)
  refine ⟨?_, ?_, hrun⟩
  · obtain ⟨-, hok, -⟩ := hlisted "people" Script Script.answer listed
    exact (hok _).2 (.rows (.cons hnamed .nil))
  · rw [htranscript, hafter]
    rfl

end Datasource

end SqlAdapter
