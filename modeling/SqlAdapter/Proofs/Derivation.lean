import Mathlib.Data.List.Induction
import SqlAdapter.Proofs.Configuration
import SqlAdapter.Proofs.Database.Columns

/-!
# Deriving a schema

The schema of an external model is derived from the columns that its table reports. The columns are asked
for once and before anything is declared, so a failure leaves the model as it is. A declaration replaces
that of the same name in its place and comes after the others otherwise; so what is declared already keeps
its order, and deriving the schema again changes nothing.
-/

set_option autoImplicit false

namespace SqlAdapter

namespace Schema

variable {s : Schema} {n n' : String} {d d' : Descriptor} {f : Field} {l : List Field}

/-! ## One declaration after another -/

theorem insertInto_of_notMem {fields : List Field} (h : n ∉ fields.map Field.name) :
    insertInto n d fields = fields ++ [⟨n, d⟩] := by
  induction fields with
  | nil => rfl
  | cons f r ih =>
    rw [List.map_cons, List.mem_cons, not_or] at h
    rw [insertInto, if_neg (Ne.symm h.1), ih h.2]
    rfl

theorem insert_insert : (s.insert n d).insert n d' = s.insert n d' := by
  obtain ⟨fields⟩ := s
  apply Schema.ext
  show insertInto n d' (insertInto n d fields) = insertInto n d' fields
  induction fields with
  | nil => simp [insertInto]
  | cons f r ih =>
    by_cases hf : f.name = n
    · simp [insertInto, hf]
    · simp [insertInto, hf, ih]

/-- Two declarations can change places if the name of one of them is declared already. -/
theorem insert_comm (hne : n ≠ n') (h : n' ∈ s.names) :
    (s.insert n d).insert n' d' = (s.insert n' d').insert n d := by
  obtain ⟨fields⟩ := s
  apply Schema.ext
  show insertInto n' d' (insertInto n d fields) = insertInto n d (insertInto n' d' fields)
  replace h : n' ∈ fields.map Field.name := h
  induction fields with
  | nil => cases h
  | cons f r ih =>
    by_cases hf : f.name = n
    · simp [insertInto, hf, hne]
    · by_cases hf' : f.name = n'
      · simp [insertInto, hf', hne.symm]
      · have hr : n' ∈ r.map Field.name := by simpa [Ne.symm hf'] using h
        simp [insertInto, hf, hf', ih hr]

theorem insertAll_cons : s.insertAll (f :: l) = (s.insert f.name f.descriptor).insertAll l := rfl

theorem insertAll_concat : s.insertAll (l ++ [f]) = (s.insertAll l).insert f.name f.descriptor :=
  List.foldl_append

theorem filter_insertAll {p : String → Bool} (h : ∀ f ∈ l, p f.name = false) :
    (s.insertAll l).fields.filter (fun f => p f.name) = s.fields.filter fun f => p f.name := by
  induction l generalizing s with
  | nil => rfl
  | cons f l ih =>
    rw [List.forall_mem_cons] at h
    rw [insertAll_cons, ih h.2, filter_insert h.1]

theorem names_insertAll :
    ∃ fresh, (s.insertAll l).names = s.names ++ fresh ∧ fresh.Sublist (l.map Field.name) ∧
      fresh.Nodup ∧ ∀ n, n ∈ fresh ↔ n ∈ l.map Field.name ∧ n ∉ s.names := by
  induction l generalizing s with
  | nil => exact ⟨[], by simp [insertAll], .slnil, .nil, by simp⟩
  | cons f l ih =>
    obtain ⟨fresh, hnames, hsub, hnodup, hmem⟩ := ih (s := s.insert f.name f.descriptor)
    rw [names_insert] at hnames hmem
    by_cases hf : f.name ∈ s.names
    · rw [if_pos hf] at hnames hmem
      refine ⟨fresh, hnames, hsub.cons _, hnodup, ?_⟩
      intro n
      rw [hmem, List.map_cons, List.mem_cons]
      constructor
      · exact fun h => ⟨.inr h.1, h.2⟩
      · rintro ⟨rfl | hn, hs⟩
        · exact absurd hf hs
        · exact ⟨hn, hs⟩
    · rw [if_neg hf] at hnames hmem
      have hfresh : f.name ∉ fresh := by
        intro h
        exact ((hmem _).1 h).2 (List.mem_append_right _ (List.mem_singleton_self _))
      refine ⟨f.name :: fresh, ?_, hsub.cons_cons _, List.nodup_cons.2 ⟨hfresh, hnodup⟩, ?_⟩
      · rw [insertAll_cons, hnames, List.append_assoc, List.singleton_append]
      · intro n
        rw [List.mem_cons, hmem, List.map_cons, List.mem_cons, List.mem_append, List.mem_singleton]
        constructor
        · rintro (rfl | ⟨hn, hs⟩)
          · exact ⟨.inl rfl, hf⟩
          · exact ⟨.inr hn, fun h => hs (.inl h)⟩
        · rintro ⟨hn, hs⟩
          by_cases hnf : n = f.name
          · exact .inl hnf
          · exact .inr ⟨hn.resolve_left hnf, fun h => h.elim hs hnf⟩

theorem mem_names_insertAll : n ∈ (s.insertAll l).names ↔ n ∈ s.names ∨ n ∈ l.map Field.name := by
  obtain ⟨fresh, hnames, -, -, hmem⟩ := names_insertAll (s := s) (l := l)
  rw [hnames, List.mem_append, hmem]
  by_cases hs : n ∈ s.names <;> simp [hs]

theorem get?_insertAll_of_notMem (h : n ∉ l.map Field.name) : (s.insertAll l).get? n = s.get? n := by
  induction l generalizing s with
  | nil => rfl
  | cons f l ih =>
    rw [List.map_cons, List.mem_cons, not_or] at h
    rw [insertAll_cons, ih h.2, get?_insert, if_neg (Ne.symm h.1)]

theorem get?_insertAll (hn : (l.map Field.name).Nodup) (hf : f ∈ l) :
    (s.insertAll l).get? f.name = some f.descriptor := by
  induction l generalizing s with
  | nil => cases hf
  | cons g l ih =>
    rw [List.map_cons, List.nodup_cons] at hn
    rw [insertAll_cons]
    rcases List.mem_cons.1 hf with rfl | hf
    · rw [get?_insertAll_of_notMem hn.1, get?_insert, if_pos rfl]
    · exact ih hn.2 hf

theorem fields_insertAll (h : (s.names ++ l.map Field.name).Nodup) :
    (s.insertAll l).fields = s.fields ++ l := by
  induction l generalizing s with
  | nil => exact (List.append_nil _).symm
  | cons f l ih =>
    have hnew : f.name ∉ s.names := by
      intro hf
      exact (List.nodup_append.1 h).2.2 _ hf _ List.mem_cons_self rfl
    have hfields : (s.insert f.name f.descriptor).fields = s.fields ++ [f] := insertInto_of_notMem hnew
    have hnames : (s.insert f.name f.descriptor).names = s.names ++ [f.name] := by
      rw [names_insert, if_neg hnew]
    have hrest : ((s.insert f.name f.descriptor).names ++ l.map Field.name).Nodup := by
      rw [hnames, List.append_assoc]
      exact h
    rw [insertAll_cons, ih hrest, hfields, List.append_assoc]
    rfl

/-- A declaration that is made again at the end might as well not have been made before the others. -/
theorem insert_insertAll_insert (h : ∀ f ∈ l, f.name ∈ s.names) :
    ((s.insert n d).insertAll l).insert n d = (s.insertAll l).insert n d := by
  induction l generalizing s with
  | nil => exact insert_insert
  | cons f l ih =>
    rw [List.forall_mem_cons] at h
    rw [insertAll_cons, insertAll_cons]
    by_cases hf : n = f.name
    · rw [← hf, insert_insert]
    · rw [insert_comm hf h.1]
      apply ih
      intro g hg
      rw [names_insert, if_pos h.1]
      exact h.2 g hg

theorem insertAll_insertAll : (s.insertAll l).insertAll l = s.insertAll l := by
  induction l using List.reverseRecOn with
  | nil => rfl
  | append_singleton l f ih =>
    have hpresent : ∀ g ∈ l, g.name ∈ (s.insertAll l).names := by
      intro g hg
      exact mem_names_insertAll.2 (.inr (List.mem_map_of_mem hg))
    rw [insertAll_concat, insertAll_concat, insert_insertAll_insert hpresent, ih]

end Schema

/-! ## Deriving -/

/-- How a model that was derived from the columns of its table differs from the model before. Only its
schema does: the derived fields are found in it, the others have the declarations that they had, and what
is new comes after what was there. -/
structure Derives (d : Dialect) (live : LiveSchema) (m : Model) (derived : List (String × Datatype))
    (m' : Model) : Prop where
  /-- A column is derived if its type has a datatype. -/
  columns : derived = live.columns.filterMap fun c =>
    match d.reverseType? c.type with
    | some t => some (c.name, t)
    | none => none
  frame : m' = { m with schema := m'.schema }
  found : live.names.Nodup → ∀ f ∈ derived, m'.schema.get? f.1 = some f.2.descriptor
  kept : m'.schema.fields.filter (fun f => f.name ∉ derived.map Prod.fst) =
    m.schema.fields.filter fun f => f.name ∉ derived.map Prod.fst
  /-- The new names, in the order in which they are reported. -/
  order : ∃ fresh, m'.schema.names = m.schema.names ++ fresh ∧
    fresh.Sublist (derived.map Prod.fst) ∧ fresh.Nodup ∧
    ∀ n, n ∈ fresh ↔ n ∈ derived.map Prod.fst ∧ n ∉ m.schema.names

/-- What is made of the reply when the columns of a table are asked for. -/
def Dialect.reported {σ : Type} (d : Dialect) (answer : (c : Call) → σ → c.Reply × σ) (s : σ)
    (table : String) : Except Error LiveSchema :=
  (answer (.query (.listColumns d table)) s).1.bind (LiveSchema.ofRows table)

namespace Datasource

variable {ds : Datasource} {m : Model} {live : LiveSchema} {derived : List (String × Datatype)}

/-- The declarations of derived fields. -/
def declarations (derived : List (String × Datatype)) : List Field :=
  derived.map fun f => ⟨f.1, f.2.descriptor⟩

theorem map_name_declarations : (declarations derived).map Field.name = derived.map Prod.fst :=
  List.map_map

theorem declare_eq :
    declare m derived = { m with schema := m.schema.insertAll (declarations derived) } := by
  induction derived generalizing m with
  | nil => rfl
  | cons f derived ih => exact ih (m := m.addField f.1 f.2)

theorem map_fst_derivedFields_sublist :
    ((ds.derivedFields live).map Prod.fst).Sublist live.names := by
  unfold derivedFields LiveSchema.names
  induction live.columns with
  | nil => exact .slnil
  | cons c cs ih =>
    rw [List.filterMap_cons]
    cases ds.dialect.reverseType? c.type with
    | none => exact ih.cons _
    | some t => exact ih.cons_cons _

theorem derives_declare :
    Derives ds.dialect live m (ds.derivedFields live) (declare m (ds.derivedFields live)) where
  columns := by
    unfold derivedFields
    congr 1
    funext c
    cases ds.dialect.reverseType? c.type <;> rfl
  frame := by rw [declare_eq]
  found := by
    intro hlive f hf
    have hnodup : ((declarations (ds.derivedFields live)).map Field.name).Nodup := by
      rw [map_name_declarations]
      exact hlive.sublist map_fst_derivedFields_sublist
    rw [declare_eq]
    exact Schema.get?_insertAll hnodup (List.mem_map_of_mem hf)
  kept := by
    rw [declare_eq]
    apply Schema.filter_insertAll (p := fun n => decide (n ∉ (ds.derivedFields live).map Prod.fst))
    intro f hf
    have hname : f.name ∈ (ds.derivedFields live).map Prod.fst := by
      rw [← map_name_declarations]
      exact List.mem_map_of_mem hf
    simpa using hname
  order := by
    rw [declare_eq, ← map_name_declarations]
    exact Schema.names_insertAll

/-- A model that has been derived is not changed by being derived from the same columns. -/
theorem declare_declare : declare (declare m derived) derived = declare m derived := by
  rw [declare_eq, declare_eq, Schema.insertAll_insertAll]

section Servers

variable {σ : Type} {answer : (c : Call) → σ → c.Reply × σ} {s : σ} {table : String}

theorem transcript_loadExternalSchema :
    (ds.loadExternalSchema m).transcript answer s =
      [⟨.query (.listColumns ds.dialect m.table),
        (answer (.query (.listColumns ds.dialect m.table)) s).1⟩] := by
  rw [loadExternalSchema_eq, Dialogue.transcript_call]
  congr 1
  cases (answer (.query (.listColumns ds.dialect m.table)) s).1.bind (LiveSchema.ofRows m.table) <;> rfl

theorem run_loadExternalSchema_error {e : Error} (h : ds.dialect.reported answer s m.table = .error e) :
    (ds.loadExternalSchema m).run answer s =
      ((.error e, m), (answer (.query (.listColumns ds.dialect m.table)) s).2) := by
  rw [Dialect.reported] at h
  rw [loadExternalSchema_eq, Dialogue.run_call, h, Dialogue.run_done]

theorem run_loadExternalSchema_ok (h : ds.dialect.reported answer s m.table = .ok live) :
    (ds.loadExternalSchema m).run answer s =
      ((.ok (ds.derivedFields live), declare m (ds.derivedFields live)),
        (answer (.query (.listColumns ds.dialect m.table)) s).2) := by
  rw [Dialect.reported] at h
  rw [loadExternalSchema_eq, Dialogue.run_call, h, Dialogue.run_done]

/-- Whatever the reply, the columns are asked for once and nothing else is sent. Without columns the model
stays as it is, with them it is derived from them, and deriving it from them again changes nothing. An
external model is configured in the same way, without a statement. -/
theorem loadExternalSchema_derives (ds : Datasource) (m : Model)
    (answer : (c : Call) → σ → c.Reply × σ) (s : σ) :
    let listing : Call := .query (.listColumns ds.dialect m.table)
    let loaded := (ds.loadExternalSchema m).run answer s
    (ds.loadExternalSchema m).transcript answer s = [⟨listing, (answer listing s).1⟩] ∧
    (∀ e, ds.dialect.reported answer s m.table = .error e → loaded.1 = (.error e, m)) ∧
    (∀ live, ds.dialect.reported answer s m.table = .ok live →
      ∃ derived m', loaded.1 = (.ok derived, m') ∧ Derives ds.dialect live m derived m' ∧
        ∀ (τ : Type) (again : (c : Call) → τ → c.Reply × τ) (t : τ),
          ds.dialect.reported again t m'.table = .ok live →
          ((ds.loadExternalSchema m').run again t).1 = (.ok derived, m')) ∧
    (m.isExternal = true →
      (ds.configureTable m).transcript answer s = [⟨listing, (answer listing s).1⟩] ∧
      (ds.configureTable m).run answer s =
        ((loaded.1.1.map fun derived => { statements := [], derived := derived }, loaded.1.2),
          loaded.2)) := by
  intro listing loaded
  refine ⟨transcript_loadExternalSchema, ?_, ?_, ?_⟩
  · intro e he
    exact congrArg Prod.fst (run_loadExternalSchema_error he)
  · intro live hlive
    refine ⟨_, _, congrArg Prod.fst (run_loadExternalSchema_ok hlive), derives_declare, ?_⟩
    intro τ again t hagain
    rw [run_loadExternalSchema_ok hagain, declare_declare]
  · intro hm
    rw [configureTable_external hm, Dialogue.transcript_bind, Dialogue.run_bind]
    exact ⟨(List.append_nil _).trans transcript_loadExternalSchema, rfl⟩

end Servers

theorem reported_answer {db : Database} {table : String} (hd : db.dialect = ds.dialect) :
    ds.dialect.reported Database.answer db table = .ok ⟨db.columns table⟩ := by
  rw [Dialect.reported, Database.answer_listColumns hd]
  exact Database.ofRows_columnRows db table

/-- A table with a column that has no datatype, and a model that declares another of its columns. -/
theorem loadExternalSchema_derives_people :
    let ds : Datasource := ⟨.sqlite, false⟩
    let people : Table :=
      .fresh "people" [⟨"_id", "VARCHAR(24)"⟩, ⟨"photo", "BLOB"⟩, ⟨"age", "INT"⟩] (some "_id")
    let db : Database := ⟨.sqlite, .ignoringCase, [people]⟩
    let nick : Field := ⟨"nick", ⟨"string", {}⟩⟩
    let m : Model := { table := "people", isExternal := true, schema := ⟨[⟨"age", ⟨"text", {}⟩⟩, nick]⟩ }
    let derived := [("_id", Datatype.string), ("age", .number)]
    ∃ m', ((ds.configureTable m).run Database.answer db).1 = (.ok { derived := derived }, m') ∧
      m'.schema.get? "age" = some Datatype.number.descriptor ∧
      m'.schema.fields.filter (fun f => f.name ∉ ["_id", "age"]) = [nick] ∧
      ((ds.loadExternalSchema m').run Database.answer db).1 = (.ok derived, m') := by
  intro ds people db nick m derived
  have hreported : ds.dialect.reported Database.answer db "people" = .ok ⟨people.columns⟩ := by
    have htable : db.table? "people" = some people := by decide +kernel
    rw [reported_answer rfl, Database.columns, htable]
    rfl
  obtain ⟨-, -, hloaded, hconfigured⟩ := loadExternalSchema_derives ds m Database.answer db
  obtain ⟨found, m', hrun, hderives, hagain⟩ := hloaded _ hreported
  have hfound : found = derived := by
    rw [hderives.columns]
    decide +kernel
  subst hfound
  have htable : m'.table = "people" := by rw [hderives.frame]
  refine ⟨m', ?_, hderives.found (by decide +kernel) ("age", .number) (by decide), hderives.kept,
    hagain _ Database.answer db (by rw [htable, hreported])⟩
  rw [(hconfigured rfl).2, hrun]
  rfl

end Datasource

end SqlAdapter
