import SqlAdapter.Model.Json

/-!
# What a model file declares

The names that stand in the fields of a model file, as they are written. A file that is accepted declares
in this order, with all repetitions, the names of the schema that it is read as: reading refuses a
repeated member of one field, but not a repeated field.
-/

set_option autoImplicit false

namespace SqlAdapter

namespace Json.Written

variable {α : Type} {key : String} {read : Written → Option α} {ms : Members} {a : α}

/-- The contents of the members with a key, all of them. -/
def contents (key : String) : Written → List Written
  | .object ms => (ms.filter fun m => m.1 = some key).map Prod.snd
  | _ => []

/-- The items of an array. -/
def items : Written → List Written
  | .array ws => ws
  | _ => []

theorem contents_of_sole? {o : Option Written} (h : sole? key ms = some o) :
    (object ms).contents key = o.toList := by
  rw [contents, filter_of_sole? h]
  cases o <;> rfl

theorem contents_of_required? (h : required? key read ms = some a) :
    ∃ w, (object ms).contents key = [w] ∧ read w = some a := by
  obtain ⟨w, hsole, hread⟩ := required?_eq_some h
  exact ⟨w, contents_of_sole? hsole, hread⟩

end Json.Written

open Json (Written)

/-- The names in a field of a file. -/
def Field.writtenNames (w : Written) : List String := (w.contents "name").filterMap Written.text?

/-- The names in the fields of a schema of a file. -/
def Schema.writtenNames (w : Written) : List String := w.items.flatMap Field.writtenNames

/-- The names in the fields of a model file. -/
def Model.writtenNames : Written → List String
  | .array [_, _, _, fields] => Schema.writtenNames fields
  | w => (w.contents "fields").flatMap Schema.writtenNames

variable {d : Nat} {w : Written}

theorem Field.writtenNames_eq {f : Field} (h : Field.ofWritten? d w = some f) :
    Field.writtenNames w = [f.name] := by
  cases w with
  | object ms =>
    obtain ⟨_, -, h⟩ := Option.bind_eq_some_iff.1 h
    obtain ⟨name, hname, h⟩ := Option.bind_eq_some_iff.1 h
    obtain ⟨datatype, -, h⟩ := Option.bind_eq_some_iff.1 h
    obtain ⟨constraints, -, h⟩ := Option.bind_eq_some_iff.1 h
    obtain ⟨n, hn, htext⟩ := Written.contents_of_required? hname
    cases h
    rw [writtenNames, hn]
    simp [htext]
  | null => cases h
  | bool b => cases h
  | number n => cases h
  | string s => cases h
  | array ws => cases h

theorem Schema.writtenNames_eq {s : Schema} (h : Schema.ofWritten? d w = some s) :
    Schema.writtenNames w = s.names := by
  have hfields : ∀ (d : Nat) (ws : List Written) (fs : List Field),
      ws.mapM (Field.ofWritten? d) = some fs →
        ws.flatMap Field.writtenNames = fs.map Field.name := by
    intro d ws
    induction ws with
    | nil =>
      intro fs h
      cases h
      rfl
    | cons w ws ih =>
      intro fs h
      rw [List.mapM_cons] at h
      obtain ⟨f, hf, h⟩ := Option.bind_eq_some_iff.1 h
      obtain ⟨rest, hrest, h⟩ := Option.bind_eq_some_iff.1 h
      cases h
      rw [List.flatMap_cons, Field.writtenNames_eq hf, ih rest hrest]
      rfl
  cases w with
  | array ws =>
    cases d with
    | zero => cases h
    | succ d =>
      obtain ⟨fs, hfs, rfl⟩ := Option.map_eq_some_iff.1 h
      exact hfields d ws fs hfs
  | null => cases h
  | bool b => cases h
  | number n => cases h
  | string s => cases h
  | object ms => cases h

namespace Model

variable {m : Model}

theorem names_of_ofParts? {table : Written} {key external fields : Option Written}
    (h : ofParts? d table key external fields = some m) :
    m.schema.names = fields.toList.flatMap Schema.writtenNames := by
  obtain ⟨_, -, h⟩ := Option.bind_eq_some_iff.1 h
  obtain ⟨_, -, h⟩ := Option.bind_eq_some_iff.1 h
  obtain ⟨_, -, h⟩ := Option.bind_eq_some_iff.1 h
  obtain ⟨s, hs, h⟩ := Option.bind_eq_some_iff.1 h
  cases h
  cases fields with
  | none =>
    cases hs
    rfl
  | some w =>
    rw [Option.toList_some, List.flatMap_singleton]
    exact (Schema.writtenNames_eq hs).symm

/-- The names that a file declares are those of the schema, in their order and with their repetitions. -/
theorem names_of_ofWritten? (h : ofWritten? d w = some m) : m.schema.names = writtenNames w := by
  unfold ofWritten? at h
  split at h
  · cases h
  · split at h
    · obtain ⟨_, -, h⟩ := Option.bind_eq_some_iff.1 h
      obtain ⟨_, -, h⟩ := Option.bind_eq_some_iff.1 h
      obtain ⟨_, -, h⟩ := Option.bind_eq_some_iff.1 h
      obtain ⟨fields, hfields, h⟩ := Option.bind_eq_some_iff.1 h
      rw [names_of_ofParts? h, writtenNames, Written.contents_of_sole? hfields]
      simp
    · cases h
  · exact names_of_ofParts? h
  · exact names_of_ofParts? h
  · exact names_of_ofParts? h
  · rw [names_of_ofParts? h, Option.toList_some, List.flatMap_singleton, writtenNames]
  · cases h

theorem file_of_load {content : Option ByteArray} (h : load content = .ok m) :
    ∃ bytes text file, content = some bytes ∧ String.fromUTF8? bytes = some text ∧
      Written.ofString? text = some file ∧ ofWritten? Json.depthLimit file = some m := by
  unfold load at h
  split at h
  · cases h
  · next bytes =>
    split at h
    · cases h
    · next text htext =>
      split at h
      · next m' hm =>
        cases h
        obtain ⟨file, hfile, hread⟩ := Option.bind_eq_some_iff.1 hm
        exact ⟨bytes, text, file, rfl, htext, hfile, hread⟩
      · cases h

theorem load_toByteArray (text : String) :
    load (some text.toByteArray) = (ofString? text).elim (.error .decoding) .ok := by
  have htext : String.fromUTF8? text.toByteArray = some text := by
    rw [String.fromUTF8?, dif_pos text.isValidUTF8]
    rfl
  simp only [load, htext]
  cases ofString? text <;> rfl

theorem load_text {text : String} (h : ofString? text = some m) :
    load (some text.toByteArray) = .ok m := by
  rw [load_toByteArray, h]
  rfl

end Model

end SqlAdapter
