import SqlAdapter.CommandLine.Run
import SqlAdapter.Proofs.Declarations
import SqlAdapter.Proofs.Generation
import SqlAdapter.Proofs.Json.Spelling

/-!
# Writing models and reading them back

A schema is written as a document with a member for everything that a field declares, and a model as one
with everything but its generation. Main statement: a model that is written to a text and read from it is
the same again, with an empty cache, whatever its names hold and however often they are repeated; a schema
is the same again, read from its text or from the document that the text denotes. So what is printed for a
derived model is a model file of this model.
-/

set_option autoImplicit false

namespace SqlAdapter

open Json (Numberless Written)

/-! ## Documents -/

section Fields

variable {c : Constraints} {f : Field} {d : Nat}

theorem Constraints.numberless_toJson : Numberless c.toJson := by
  refine .object ?_
  simp only [List.forall_mem_cons]
  exact ⟨.bool _, .bool _, List.forall_mem_nil _⟩

theorem Field.numberless_toJson : Numberless f.toJson := by
  refine .object ?_
  simp only [List.forall_mem_cons]
  exact ⟨.string _, .string _, Constraints.numberless_toJson, List.forall_mem_nil _⟩

/-- A field as a document, with its members in key order. -/
def Field.document (f : Field) : Json :=
  .object [("constraints", f.descriptor.constraints.toJson),
    ("datatype", .string f.descriptor.datatype), ("name", .string f.name)]

theorem Constraints.denotes?_toJson : c.toJson.written.denotes? (d + 1) = some c.toJson := by
  have hlt : ¬"unique" < "required" := by decide +kernel
  have hne : "unique" ≠ "required" := by decide
  have hflags : Keyed.ofList [("required", .bool c.required), ("unique", .bool c.unique)] =
      [("required", Json.bool c.required), ("unique", .bool c.unique)] :=
    (if_neg hlt).trans (if_neg hne)
  show some (Json.object (Keyed.ofList _)) = _
  rw [hflags, toJson]

theorem Field.denotes?_toJson : f.toJson.written.denotes? (d + 2) = some f.document := by
  have hdatatype : "datatype" < "name" := by decide +kernel
  have hconstraints : "constraints" < "datatype" := by decide +kernel
  have hmembers : ∀ n t c : Json, Keyed.ofList [("name", n), ("datatype", t), ("constraints", c)] =
      [("constraints", c), ("datatype", t), ("name", n)] := by
    intro n t c
    have hinsert : Keyed.insert "datatype" t [("name", n)] = [("datatype", t), ("name", n)] :=
      if_pos hdatatype
    show Keyed.insert "constraints" c (Keyed.insert "datatype" t [("name", n)]) = _
    rw [hinsert]
    exact if_pos hconstraints
  simp only [toJson, Json.written, Json.writtenMembers, Written.denotes?, Written.membersDenote?,
    Constraints.denotes?_toJson, Option.map_some, Option.bind_eq_bind, Option.bind_some, hmembers, document]

theorem Field.ofWritten?_toJson : Field.ofWritten? (d + 2) f.toJson.written = some f := rfl

theorem Field.ofWritten?_document : Field.ofWritten? (d + 2) f.document.written = some f := rfl

end Fields

namespace Schema

variable {s : Schema} {d : Nat} {text : String}

theorem numberless_toJson : Numberless s.toJson := by
  refine .array ?_
  rw [List.forall_mem_map]
  exact fun f _ => Field.numberless_toJson

theorem ofWritten?_array {write : Field → Json}
    (h : ∀ f, Field.ofWritten? d (write f).written = some f) :
    ofWritten? (d + 1) (Json.array (s.fields.map write)).written = some s := by
  have hitems : ∀ fs : List Field,
      (Json.writtenItems (fs.map write)).mapM (Field.ofWritten? d) = some fs := by
    intro fs
    induction fs with
    | nil => rfl
    | cons f fs ih =>
      rw [List.map_cons, Json.writtenItems, List.mapM_cons, ih, h]
      rfl
  rw [Json.written, ofWritten?, hitems]
  rfl

theorem ofWritten?_toJson : ofWritten? (d + 3) s.toJson.written = some s :=
  ofWritten?_array fun _ => Field.ofWritten?_toJson

/-- A schema as a document. -/
def document (s : Schema) : Json := .array (s.fields.map Field.document)

theorem denotes?_toJson : s.toJson.written.denotes? (d + 3) = some s.document := by
  have hitems : ∀ fs : List Field,
      Written.itemsDenote? (d + 2) (Json.writtenItems (fs.map Field.toJson)) =
        some (fs.map Field.document) := by
    intro fs
    induction fs with
    | nil => rfl
    | cons f fs ih =>
      rw [List.map_cons, Json.writtenItems, Written.itemsDenote?, Field.denotes?_toJson, ih]
      rfl
  rw [toJson, Json.written, Written.denotes?, hitems]
  rfl

theorem ofDocument_document : ofDocument s.document = .ok s := by
  have hread : ofWritten? Json.depthLimit s.document.written = some s :=
    ofWritten?_array fun _ => Field.ofWritten?_document
  rw [ofDocument, hread]

/-- Reads a schema from its text. -/
def ofString? (s : String) : Option Schema := (Written.ofString? s).bind (ofWritten? Json.depthLimit)

theorem ofString?_of_isText (h : s.toJson.IsText text) :
    ofString? text = some s ∧ (Json.ofString? text).map ofDocument = some (.ok s) := by
  have hdocument : s.toJson.written.document? = some s.document := denotes?_toJson
  have hread : ofWritten? Json.depthLimit s.toJson.written = some s := ofWritten?_toJson
  constructor
  · rw [ofString?, h.ofString?, Option.bind_some, hread]
  · rw [Json.ofString?, h.ofString?, Option.bind_some, hdocument, Option.map_some, ofDocument_document]

end Schema

namespace Model

variable {m : Model} {d : Nat} {text : String}

theorem numberless_toJson : Numberless m.toJson := by
  refine .object ?_
  simp only [List.forall_mem_cons]
  exact ⟨.string _, .string _, .bool _, Schema.numberless_toJson, List.forall_mem_nil _⟩

theorem ofWritten?_toJson :
    ofWritten? (d + 4) m.toJson.written = some { m with generation := some 0 } := by
  have hparts : ofWritten? (d + 4) m.toJson.written =
      ofParts? (d + 3) (.string (some m.table)) (some (.string (some m.primaryKey)))
        (some (.bool m.isExternal)) (some m.schema.toJson.written) := rfl
  simp [hparts, ofParts?, Schema.ofWritten?_toJson, Written.text?, Written.flag?]

theorem load_of_isText (h : m.toJson.IsText text) :
    load (some text.toByteArray) = .ok { m with generation := some 0 } := by
  have hread : ofWritten? Json.depthLimit m.toJson.written = some { m with generation := some 0 } :=
    ofWritten?_toJson
  apply load_text
  rw [ofString?, h.ofString?, Option.bind_some, hread]

end Model

/-! ## The derived model -/

namespace CommandLine

variable {σ : Type} {answer : (c : Call) → σ → c.Reply × σ} {st : σ} {files : String → Option ByteArray}
  {i : Invocation} {table : String}

theorem run_answer_derive (h : i.request = .derive table) :
    let derived := ((Datasource.mk .sqlite i.dryRun).loadExternalSchema
      { table := table, isExternal := true }).run answer st
    (CommandLine.answer files i).run answer st =
      (derived.1.1.map fun _ => [derived.1.2.toJson.pretty], derived.2) := by
  intro derived
  unfold CommandLine.answer
  rw [h]
  simp only [Dialogue.bind_eq, Dialogue.run_bind, Dialogue.pure_eq, Dialogue.run_done]
  rfl

end CommandLine

/-- Models and schemas survive being written and read, and so does a derived model: either the columns of
the table cannot be had and there is no answer, or the answer is one document, and a file that holds it, with
or without the end of its line, is a file of the derived model. -/
theorem written_read_back :
    (∀ (m : Model) (text : String), text = m.toJson.compact ∨ text = m.toJson.pretty →
      Model.load (some text.toByteArray) = .ok { m with generation := some 0 }) ∧
    (∀ (s : Schema) (text : String), text = s.toJson.compact ∨ text = s.toJson.pretty →
      Schema.ofString? text = some s ∧ (Json.ofString? text).map Schema.ofDocument = some (.ok s)) ∧
    ∀ (σ : Type) (answer : (c : Call) → σ → c.Reply × σ) (st : σ) (files : String → Option ByteArray)
      (i : CommandLine.Invocation) (table : String), i.request = .derive table →
      let derived := (((Datasource.mk .sqlite i.dryRun).loadExternalSchema
        { table := table, isExternal := true }).run answer st).1
      ∃ document : String,
        ((CommandLine.answer files i).run answer st).1 = derived.1.map (fun _ => [document]) ∧
        ∀ file, file = document ∨ file = document ++ "\n" →
          Model.load (some file.toByteArray) = .ok derived.2 := by
  refine ⟨?_, ?_, ?_⟩
  · rintro m text (rfl | rfl)
    · exact Model.load_of_isText (Json.isText_compact Model.numberless_toJson)
    · exact Model.load_of_isText (Json.isText_pretty Model.numberless_toJson)
  · rintro s text (rfl | rfl)
    · exact Schema.ofString?_of_isText (Json.isText_compact Schema.numberless_toJson)
    · exact Schema.ofString?_of_isText (Json.isText_pretty Schema.numberless_toJson)
  · intro σ answer st files i table hi derived
    have hgeneration : derived.2.generation = some 0 := generation_loadExternalSchema
    have htext : derived.2.toJson.IsText derived.2.toJson.pretty :=
      Json.isText_pretty Model.numberless_toJson
    refine ⟨derived.2.toJson.pretty, ?_, ?_⟩
    · rw [CommandLine.run_answer_derive hi]
    · rintro file (rfl | rfl)
      · rw [Model.load_of_isText htext, ← hgeneration]
      · rw [Model.load_of_isText htext.line, ← hgeneration]

/-- A model with names that need escapes, a field that goes by the key of a member and stands there twice,
and stale results; and a table with a column that has no datatype. -/
theorem written_read_back_people :
    let fields : List Field := [⟨"name", ⟨"\x1f", ⟨true, false⟩⟩⟩, ⟨"name", ⟨"text", ⟨false, true⟩⟩⟩]
    let m : Model := ⟨"a\"b\\\x00\n", "", true, ⟨fields⟩, some 7⟩
    let people : Table :=
      .fresh "people" [⟨"_id", "VARCHAR(24)"⟩, ⟨"photo", "BLOB"⟩, ⟨"age", "INT"⟩] (some "_id")
    let i : CommandLine.Invocation := ⟨none, .mysql, true, .derive "people"⟩
    let derived : Model :=
      ⟨"people", "_id", true, ⟨[⟨"_id", ⟨"string", {}⟩⟩, ⟨"age", ⟨"number", {}⟩⟩]⟩, some 0⟩
    Model.load (some m.toJson.pretty.toByteArray) = .ok { m with generation := some 0 } ∧
      Schema.ofString? m.schema.toJson.compact = some m.schema ∧
      ∃ document db, i.run (fun _ => none) ⟨.sqlite, .ignoringCase, [people]⟩ =
          (.printed [document], db) ∧
        Model.load (some document.toByteArray) = .ok derived := by
  intro fields m people i derived
  obtain ⟨hmodels, hschemas, hderive⟩ := written_read_back
  refine ⟨hmodels m _ (.inr rfl), (hschemas m.schema _ (.inl rfl)).1, ?_⟩
  have hreported : (Datasource.mk .sqlite true).dialect.reported Database.answer
      ⟨.sqlite, .ignoringCase, [people]⟩ "people" = .ok ⟨people.columns⟩ := by
    have htable : Database.table? ⟨.sqlite, .ignoringCase, [people]⟩ "people" = some people := by
      decide +kernel
    rw [Datasource.reported_answer rfl, Database.columns, htable]
    rfl
  have hdeclared : Datasource.declare { table := "people", isExternal := true }
      (Datasource.derivedFields ⟨.sqlite, true⟩ ⟨people.columns⟩) = derived := by
    decide +kernel
  have hloaded := Datasource.run_loadExternalSchema_ok (m := { table := "people", isExternal := true })
    hreported
  rw [hdeclared] at hloaded
  obtain ⟨document, hlines, hfile⟩ := hderive Database Database.answer
    ⟨.sqlite, .ignoringCase, [people]⟩ (fun _ => none) i "people" rfl
  dsimp only [i] at hlines hfile
  rw [hloaded] at hlines hfile
  unfold CommandLine.Invocation.run
  generalize (CommandLine.answer (fun _ => none) i).run Database.answer _ = printed at hlines ⊢
  obtain ⟨e | lines, db⟩ := printed
  · cases hlines
  · cases hlines
    exact ⟨document, db, rfl, hfile document (.inl rfl)⟩

end SqlAdapter
