import SqlAdapter.Proofs.Database.Acceptance
import SqlAdapter.Proofs.Datatype.Reported

/-!
# Deriving what was configured

A server that carries out what is sent, and reports the columns that it has, is given a table for a model.
Main statement: a model that is derived from this table has the key and the declared fields, each with the
datatype that stands for its column, and has nothing to add to the table.
-/

set_option autoImplicit false

namespace SqlAdapter

namespace Datasource

variable {ds : Datasource} {live : LiveSchema} {cs : List Column} {schema : Schema} {fs : List Field}
  {types : List Datatype} {key : String}

theorem derivedFields_eq_of_alike (h : List.Forall₂ Column.Alike live.columns cs) :
    ds.derivedFields live = ds.derivedFields ⟨cs⟩ := by
  unfold derivedFields
  dsimp only
  generalize live.columns = reported at h ⊢
  induction h with
  | nil => rfl
  | cons hc _ ih =>
    rw [List.filterMap_cons, List.filterMap_cons, Dialect.reverseType?_congr hc.2, hc.1, ih]

theorem exists_types (h : ∀ f ∈ fs, (Datatype.parse? f.descriptor.datatype).isSome) :
    ∃ types : List Datatype, fs.map (fun f => Datatype.parse? f.descriptor.datatype) = types.map some := by
  induction fs with
  | nil => exact ⟨[], rfl⟩
  | cons f fs ih =>
    rw [List.forall_mem_cons] at h
    obtain ⟨t, ht⟩ := Option.isSome_iff_exists.1 h.1
    obtain ⟨types, htypes⟩ := ih h.2
    exact ⟨t :: types, by rw [List.map_cons, List.map_cons, ht, htypes]⟩

theorem derivedFields_made
    (htypes : fs.map (fun f => Datatype.parse? f.descriptor.datatype) = types.map some) :
    ds.derivedFields ⟨fs.map Field.column⟩ =
      (fs.map Field.name).zip (types.map ds.dialect.readBack) := by
  unfold derivedFields
  induction fs generalizing types with
  | nil => rfl
  | cons f fs ih =>
    cases types with
    | nil => cases htypes
    | cons t types =>
      obtain ⟨ht, hrest⟩ := List.cons.inj htypes
      rw [List.map_cons, List.filterMap_cons, Field.column_eq ht, Dialect.reverseType?_columnType, ih hrest]
      rfl

theorem derivedFields_configured
    (htypes : fs.map (fun f => Datatype.parse? f.descriptor.datatype) = types.map some) :
    ds.derivedFields ⟨⟨key, ds.dialect.keyType⟩ :: fs.map Field.column⟩ =
      (key, .string) :: (fs.map Field.name).zip (types.map ds.dialect.readBack) := by
  have hfields : ds.derivedFields ⟨fs.map Field.column⟩ = _ := derivedFields_made htypes
  unfold derivedFields at hfields ⊢
  rw [List.filterMap_cons, Dialect.reverseType?_keyType, hfields]
  rfl

/-- The schema that is derived from the columns of a table lacks none of them. -/
theorem lacking_derived : lacking ⟨declarations (ds.derivedFields live)⟩ live = [] := by
  rw [lacking_eq, List.filter_eq_nil_iff]
  intro f hf
  have hname : f.name ∈ (ds.derivedFields live).map Prod.fst := by
    rw [← map_name_declarations]
    exact List.mem_map_of_mem hf
  have hlive : f.name ∈ live.names := map_fst_derivedFields_sublist.subset hname
  simpa using hlive

theorem declare_empty {m : Model} {derived : List (String × Datatype)} (hm : m.schema = ∅)
    (hderived : (derived.map Prod.fst).Nodup) :
    declare m derived = { m with schema := ⟨declarations derived⟩ } := by
  have hschema : m.schema.insertAll (declarations derived) = ⟨declarations derived⟩ := by
    rw [hm]
    apply Schema.ext
    apply Schema.fields_insertAll
    rw [map_name_declarations]
    exact hderived
  rw [declare_eq, hschema]

end Datasource

section Servers

variable {σ : Type} {view : σ → Database} {answer : (c : Call) → σ → c.Reply × σ}

namespace Serves

variable {ds : Datasource} {s : σ} {m : Model} {report : Report}

/-- A table that was not there has the key and the columns of the fields once it has been configured. -/
theorem columns_configureTable (h : Serves view answer) (hreports : ReportsColumns view answer)
    (hdry : ds.dryRun = false) (hd : (view s).dialect = ds.dialect) (hm : m.isExternal = false)
    (hkey : m.primaryKey ∉ m.schema.names) (hnone : (view s).table? m.table = none)
    (hok : ((ds.configureTable m).run answer s).1.1 = .ok report) :
    (view ((ds.configureTable m).run answer s).2).dialect = ds.dialect ∧
      (view ((ds.configureTable m).run answer s).2).columns m.table =
        ⟨m.primaryKey, ds.dialect.keyType⟩ :: m.schema.fields.map Field.column := by
  obtain ⟨-, -, -, hview⟩ := h.run_configureTable_ok hdry hd hreports hm hok
  have hcolumns : ((view s).createTable m.table m.primaryKey).columns m.table =
      [⟨m.primaryKey, ds.dialect.keyType⟩] := by
    rw [Database.columns_createTable, hnone, hd]
    rfl
  have hlacking : Datasource.lacking m.schema
      ⟨((view s).createTable m.table m.primaryKey).columns m.table⟩ = m.schema.fields := by
    rw [hcolumns, Datasource.lacking_eq, List.filter_eq_self]
    intro f hf
    have hne : f.name ≠ m.primaryKey := by
      rintro heq
      exact hkey (heq ▸ List.mem_map_of_mem hf)
    simpa [LiveSchema.names] using hne
  rw [hview, hlacking]
  constructor
  · rw [Database.dialect_addFields, Database.dialect_createTable, hd]
  · rw [Database.columns_addFields Database.table?_createTable, hcolumns]
    rfl

theorem run_loadExternalSchema (h : Serves view answer) (hreports : ReportsColumns view answer)
    (hd : (view s).dialect = ds.dialect) (hm : m.schema = ∅) {derived : List (String × Datatype)}
    (hderived : ds.derivedFields ⟨(view s).columns m.table⟩ = derived)
    (hnodup : (derived.map Prod.fst).Nodup) :
    ((ds.loadExternalSchema m).run answer s).1 =
        (.ok derived, { m with schema := ⟨Datasource.declarations derived⟩ }) ∧
      view ((ds.loadExternalSchema m).run answer s).2 = view s := by
  obtain ⟨live, hlive, halike⟩ := hreports s m.table
  rw [hd] at hlive
  rw [Datasource.run_loadExternalSchema_ok hlive, Datasource.derivedFields_eq_of_alike halike, hderived,
    Datasource.declare_empty hm hnodup]
  exact ⟨rfl, h.view_listColumns hd _⟩

/-- When a table that was not there has been configured for a model, a model without a schema that is
derived from it gets the key and every field, in their order and each with the datatype that stands for its
column. Its schema has a column for each of its fields. -/
theorem configured_is_derived (h : Serves view answer) (hreports : ReportsColumns view answer)
    (hdry : ds.dryRun = false) (hd : ds.dialect = (view s).dialect) (hm : m.isExternal = false)
    (hnames : m.schema.names.Nodup) (hkey : m.primaryKey ∉ m.schema.names)
    (hparse : ∀ f ∈ m.schema.fields, (Datatype.parse? f.descriptor.datatype).isSome)
    (hnone : (view s).table? m.table = none)
    (hok : ((ds.configureTable m).run answer s).1.1 = .ok report) :
    let configured := ((ds.configureTable m).run answer s).2
    ∃ types : List Datatype,
      m.schema.fields.map (fun f => Datatype.parse? f.descriptor.datatype) = types.map some ∧
      ∀ (reader : Datasource) (fresh : Model), reader.dialect = ds.dialect →
        fresh.table = m.table → fresh.schema = ∅ →
        let derived := (m.primaryKey, .string) :: m.schema.names.zip (types.map ds.dialect.readBack)
        let schema : Schema := ⟨derived.map fun f => ⟨f.1, f.2.descriptor⟩⟩
        let loaded := (reader.loadExternalSchema fresh).run answer configured
        loaded.1 = (.ok derived, { fresh with schema := schema }) ∧
        (Dialogue.run answer (reader.reconcileColumns m.table schema) loaded.2).1 = .ok {} ∧
        (Dialogue.transcript answer (reader.reconcileColumns m.table schema) loaded.2).map
          Exchange.call = [.query (.listColumns ds.dialect m.table)] := by
  intro configured
  obtain ⟨hdialect, hcolumns⟩ := h.columns_configureTable hreports hdry hd.symm hm hkey hnone hok
  obtain ⟨types, htypes⟩ := Datasource.exists_types hparse
  refine ⟨types, htypes, ?_⟩
  intro reader fresh hreader htable hschema derived schema loaded
  have hsame : (view configured).dialect = reader.dialect := hdialect.trans hreader.symm
  have hderived : reader.derivedFields ⟨(view configured).columns m.table⟩ = derived := by
    rw [hcolumns, ← hreader, Datasource.derivedFields_configured htypes, hreader]
    rfl
  have hfirsts : derived.map Prod.fst = m.primaryKey :: m.schema.names := by
    have hlength : m.schema.names.length ≤ (types.map ds.dialect.readBack).length := by
      have hsizes := congrArg List.length htypes
      simp only [List.length_map] at hsizes
      simp only [Schema.names, List.length_map, hsizes, Nat.le_refl]
    show m.primaryKey :: (m.schema.names.zip _).map Prod.fst = _
    rw [List.map_fst_zip hlength]
  obtain ⟨hloaded, hview⟩ := h.run_loadExternalSchema hreports hsame hschema (by rw [htable, hderived])
    (by rw [hfirsts]; exact List.nodup_cons.2 ⟨hkey, hnames⟩)
  have hnothing : Datasource.lacking schema ⟨(view loaded.2).columns m.table⟩ = [] := by
    show Datasource.lacking ⟨Datasource.declarations derived⟩ ⟨(view loaded.2).columns m.table⟩ = []
    rw [hview, ← hderived]
    exact Datasource.lacking_derived
  have hafter : (view loaded.2).dialect = reader.dialect := by
    rw [hview]
    exact hsame
  obtain ⟨hreport, -, hcalls⟩ := h.reconcileColumns_nothing hreports hafter hnothing
  rw [hreader] at hcalls
  exact ⟨hloaded, hreport, hcalls⟩

end Serves

end Servers

/-! ## A database that reports types in lower case -/

/-- The row of a listing with its type in lower case. -/
def Record.lowerType (r : Record) : Record :=
  match r.get? "type" with
  | some (.text type) => r.insert "type" (.text (Text.lower type))
  | _ => r

def Column.lowerType (c : Column) : Column := { c with type := Text.lower c.type }

theorem Column.ofRow_lowerType (table : String) (c : Column) :
    ofRow table (Record.lowerType (.ofList [("name", .text c.name), ("type", .text c.type)])) =
      .ok c.lowerType := by
  have hrow : Record.ofList [("name", .text c.name), ("type", .text c.type)] =
      ((∅ : Record).insert "name" (.text c.name)).insert "type" (.text c.type) := rfl
  have hlower : Record.lowerType (.ofList [("name", .text c.name), ("type", .text c.type)]) =
      (((∅ : Record).insert "name" (.text c.name)).insert "type" (.text c.type)).insert "type"
        (.text c.lowerType.type) := by
    rw [Record.lowerType, hrow, Record.get?_insert, if_pos rfl]
    rfl
  rw [hlower]
  apply Column.ofRow_eq
  · rw [Record.get?_insert, if_neg (by decide), Record.get?_insert, if_neg (by decide),
      Record.get?_insert, if_pos rfl]
    rfl
  · rw [Record.get?_insert, if_pos rfl]

namespace Database

variable {db : Database} {d : Dialect} {table : String}

/-- Answers a call like a database in memory, but with the types of all rows in lower case. -/
def answerLower (c : Call) (db : Database) : c.Reply × Database :=
  match c with
  | .execute s => answer (.execute s) db
  | .query s => ((answer (.query s) db).1.map (List.map Record.lowerType), (answer (.query s) db).2)

theorem serves_answerLower : Serves (fun db => db) answerLower := by
  intro db c q vs hq hc hvs
  have hserved := serves_answer db c q vs hq hc hvs
  cases c with
  | execute s => exact hserved
  | query s =>
    have hsame : (Exchange.mk (.query s) (answerLower (.query s) db).1).acknowledged =
        (Exchange.mk (.query s) (answer (.query s) db).1).acknowledged := by
      rw [answerLower]
      cases (answer (.query s) db).1 <;> rfl
    rw [hsame]
    exact hserved

theorem answerLower_listColumns (hd : db.dialect = d) :
    answerLower (.query (.listColumns d table)) db =
      (.ok ((db.columnRows table).map Record.lowerType), db) := by
  rw [answerLower, answer_listColumns hd]
  rfl

theorem ofRows_lowerType (db : Database) (table : String) :
    LiveSchema.ofRows table ((db.columnRows table).map Record.lowerType) =
      .ok ⟨(db.columns table).map Column.lowerType⟩ := by
  rw [columnRows_eq, List.map_map]
  exact LiveSchema.ofRows_map (Column.ofRow_lowerType table) _

theorem alike_lowerType (cs : List Column) : List.Forall₂ Column.Alike (cs.map Column.lowerType) cs := by
  rw [List.forall₂_map_left_iff]
  exact List.forall₂_same.2 fun c _ => ⟨rfl, Text.sameIgnoringCase_lower c.type⟩

theorem reportsColumns_answerLower : ReportsColumns (fun db => db) answerLower := by
  intro db table
  refine ⟨_, ?_, alike_lowerType (db.columns table)⟩
  show Except.bind (answerLower (.query (.listColumns db.dialect table)) db).1 _ = _
  rw [answerLower_listColumns rfl]
  exact ofRows_lowerType db table

theorem willing_answerLower : Willing (fun db => db) answerLower :=
  ⟨willing_answer.creates, willing_answer.adds⟩

/-- MySQL reports a boolean as the small integer that it is stored in. -/
theorem configured_is_derived_lower :
    let m : Model := { table := "people", schema := ⟨[⟨"active", ⟨"Boolean", {}⟩⟩,
      ⟨"born", ⟨"date", {}⟩⟩, ⟨"card", ⟨"objectid", {}⟩⟩]⟩ }
    let ds : Datasource := ⟨.mysql, false⟩
    let db : Database := ⟨.mysql, .exact, []⟩
    let configured := ((ds.configureTable m).run answerLower db).2
    let derived :=
      [("_id", Datatype.string), ("active", .boolean), ("born", .date), ("card", .string)]
    (∃ report, ((ds.configureTable m).run answerLower db).1.1 = .ok report) ∧
      ((ds.loadExternalSchema { table := "people" }).run answerLower configured).1.1 = .ok derived := by
  intro m ds db configured derived
  obtain ⟨report, hok⟩ : ∃ report, ((ds.configureTable m).run answerLower db).1.1 = .ok report := by
    have hrun : ((ds.configureTable m).run answerLower db).1 = _ ∧ _ :=
      serves_answerLower.run_configureTable_planned willing_answerLower rfl rfl
        reportsColumns_answerLower rfl rfl (by decide) (by decide +kernel)
    exact ⟨_, congrArg Prod.fst hrun.1⟩
  obtain ⟨types, htypes, hread⟩ := serves_answerLower.configured_is_derived reportsColumns_answerLower
    rfl rfl rfl (by decide) (by decide) (by decide +kernel) rfl hok
  have hfields : m.schema.fields.map (fun f => Datatype.parse? f.descriptor.datatype) =
      [Datatype.boolean, .date, .identifier].map some := by decide +kernel
  obtain rfl : [.boolean, .date, .identifier] = types :=
    List.map_injective_iff.2 (fun _ _ => Option.some.inj) (hfields.symm.trans htypes)
  obtain ⟨hloaded, -⟩ := hread ds { table := "people" } rfl rfl rfl
  refine ⟨⟨report, hok⟩, ?_⟩
  rw [hloaded]
  rfl

end Database

end SqlAdapter
