import SqlAdapter.Proofs.Json.Respelling
import SqlAdapter.Proofs.ModelFiles

/-!
# Spellings of a model file

A model file holds objects of three kinds, one inside the other: the model, its fields and their
constraints. What each of them allows is its `layout`. Of each kind it is shown that spellings of one
another are read alike, that an object which is faulty, or in which an inner one is, cannot be read, and
that whatever is read is a spelling of the document of what it is read as. Main statement: a file is read
as a model exactly if it is a spelling of the document of the model.
-/

set_option autoImplicit false

namespace SqlAdapter

open Json (Written)
open Json.Written (Layout Members sole?)

/-! ## Constraints -/

namespace Constraints

/-- Flags that are not set may be left out, and an array may give them. What stands under other keys
denotes a document within a depth. -/
def layout (d : Nat) : Layout where
  keys := ["required", "unique"]
  positional := true
  defaults := [(some "required", .bool false), (some "unique", .bool false)]
  unread w := (w.denotes? d).isSome
  alike _ _ _ := False
  wrong _ _ := False

variable {d : Nat} {w w' : Written} {ms ms' : Members} {c : Constraints}

theorem ofWritten?_members (h : (layout d).members? w = some ms) :
    ofWritten? w = ofWritten? (.object ms) := by
  cases w with
  | object ms' =>
    cases h
    rfl
  | array ws =>
    obtain ⟨⟨-, hlength⟩, h⟩ := Option.ite_none_right_eq_some.1 h
    cases h
    match ws, hlength with
    | [], _ => rfl
    | [_], _ => rfl
    | [_, _], _ => rfl
  | _ => cases h

theorem exists_members (h : ofWritten? w = some c) : ∃ ms, (layout d).members? w = some ms := by
  unfold ofWritten? at h
  split at h
  · exact ⟨_, rfl⟩
  · exact ⟨_, rfl⟩
  · exact ⟨_, rfl⟩
  · exact ⟨_, rfl⟩
  · cases h

theorem ofWritten?_respells (h : (layout d).Respells w w') : ofWritten? w = ofWritten? w' := by
  obtain ⟨ms, ms', hms, hms', hsame⟩ := h
  have hrequired : Written.optional? "required" Written.flag? false ms =
      Written.optional? "required" Written.flag? false ms' :=
    hsame.optional? (by simp [layout]) (fun _ _ => False.elim) (by simp [layout, Written.flag?])
  have hunique : Written.optional? "unique" Written.flag? false ms =
      Written.optional? "unique" Written.flag? false ms' :=
    hsame.optional? (by simp [layout]) (fun _ _ => False.elim) (by simp [layout, Written.flag?])
  rw [ofWritten?_members hms, ofWritten?_members hms', ofWritten?, ofWritten?, hrequired, hunique]

theorem isSome_denotes?_respells (h : (layout d).Respells w w') :
    (w.denotes? (d + 1)).isSome = (w'.denotes? (d + 1)).isSome :=
  h.isSome_denotes? (fun _ => id) (by simp [layout, Written.memberDenotes, Written.denotes?])
    fun _ _ _ => False.elim

theorem ofWritten?_spoilt (h : (layout d).Spoilt w) : ofWritten? w = none := by
  obtain ⟨ms, hms, hfaulty⟩ := h
  obtain ⟨k, hk, hunread⟩ := hfaulty.exists_unreadable
  have hk : k = "required" ∨ k = "unique" := by simpa [layout] using hk
  have hdefault : (some k, .bool false) ∈ (layout d).defaults := by simpa [layout] using hk
  have hflag : Written.optional? k Written.flag? false ms = none :=
    hunread.optional? hdefault rfl fun _ => False.elim
  rw [ofWritten?_members hms, ofWritten?]
  rcases hk with rfl | rfl <;> simp [hflag]

theorem respells_toJson (h : ofWritten? w = some c) (hw : (w.denotes? (d + 1)).isSome) :
    (layout d).Respells w c.toJson.written := by
  obtain ⟨ms, hms⟩ := exists_members (d := d) h
  rw [ofWritten?_members hms] at h
  rw [Written.isSome_denotes? hms] at hw
  obtain ⟨required, hrequired, h⟩ := Option.bind_eq_some_iff.1 h
  obtain ⟨unique, hunique, h⟩ := Option.bind_eq_some_iff.1 h
  cases h
  obtain ⟨r, hr, hrflag⟩ := Written.optional?_eq_some_holds (s := layout d) hrequired
    List.mem_cons_self rfl
  obtain ⟨u, hu, huflag⟩ := Written.optional?_eq_some_holds (s := layout d) hunique
    (List.mem_cons_of_mem _ List.mem_cons_self) rfl
  rw [Written.flag?_eq_some_iff] at hrflag huflag
  rw [hrflag] at hr
  rw [huflag] at hu
  exact ⟨ms, _, hms, rfl, Layout.sameMembers_zip_of_denotes hw (fun _ => id) (by simp [layout])
    (.cons hr (.cons hu .nil))⟩

end Constraints

/-! ## Fields -/

namespace Field

/-- Only the constraints may be left out. What stands under other keys denotes a document within a depth. -/
def layout (d : Nat) : Layout where
  keys := ["name", "datatype", "constraints"]
  positional := false
  defaults := [(some "constraints", .object [])]
  unread w := (w.denotes? (d + 1)).isSome
  alike k w w' := k = "constraints" ∧ (Constraints.layout d).Respells w w'
  wrong k w := k = "constraints" ∧ (Constraints.layout d).Spoilt w

variable {d : Nat} {w w' : Written} {ms ms' : Members} {f : Field}

/-- What the members of a field say. -/
def ofMembers? (ms : Members) : Option Field := do
  let name ← Written.required? "name" Written.text? ms
  let datatype ← Written.required? "datatype" Written.text? ms
  let constraints ← Written.optional? "constraints" Constraints.ofWritten? {} ms
  some ⟨name, datatype, constraints⟩

theorem ofWritten?_object : ofWritten? d (.object ms) =
    if ((Written.object ms).denotes? d).isSome then ofMembers? ms else none := by
  rw [ofWritten?]
  cases (Written.object ms).denotes? d <;> rfl

theorem isSome_denotes?_respells (h : (layout d).Respells w w') :
    (w.denotes? (d + 2)).isSome = (w'.denotes? (d + 2)).isSome := by
  refine h.isSome_denotes? (fun _ => id) ?_ fun k w w' hw => Constraints.isSome_denotes?_respells hw.2
  simp [layout, Written.memberDenotes, Written.denotes?, Written.membersDenote?]

theorem ofMembers?_sameMembers (h : (layout d).SameMembers ms ms') : ofMembers? ms = ofMembers? ms' := by
  have hname : Written.required? "name" Written.text? ms = Written.required? "name" Written.text? ms' :=
    h.required? (by simp [layout]) (by simp [layout]) (by simp [layout])
  have hdatatype : Written.required? "datatype" Written.text? ms =
      Written.required? "datatype" Written.text? ms' :=
    h.required? (by simp [layout]) (by simp [layout]) (by simp [layout])
  have hconstraints : Written.optional? "constraints" Constraints.ofWritten? {} ms =
      Written.optional? "constraints" Constraints.ofWritten? {} ms' := by
    refine h.optional? (by simp [layout]) (fun w w' hw => Constraints.ofWritten?_respells hw.2) ?_
    intro w hw
    obtain rfl : w = .object [] := by simpa [layout] using hw
    rfl
  rw [ofMembers?, ofMembers?, hname, hdatatype, hconstraints]

theorem ofWritten?_respells (h : (layout d).Respells w w') :
    ofWritten? (d + 2) w = ofWritten? (d + 2) w' := by
  have hdenotes := isSome_denotes?_respells h
  obtain ⟨ms, ms', hms, hms', hsame⟩ := h
  cases Layout.eq_object rfl hms
  cases Layout.eq_object rfl hms'
  rw [ofWritten?_object, ofWritten?_object, hdenotes, ofMembers?_sameMembers hsame]

theorem ofWritten?_spoilt (h : (layout d).Spoilt w) : ofWritten? (d + 2) w = none := by
  obtain ⟨ms, hms, hfaulty⟩ := h
  obtain ⟨k, hk, hunread⟩ := hfaulty.exists_unreadable
  suffices hread : ofMembers? ms = none by
    rw [Layout.eq_object rfl hms, ofWritten?_object, hread, ite_self]
  have hk : k = "name" ∨ k = "datatype" ∨ k = "constraints" := by simpa [layout] using hk
  rw [ofMembers?]
  rcases hk with rfl | rfl | rfl
  · have hname : Written.required? "name" Written.text? ms = none :=
      hunread.required? rfl (by simp [layout])
    simp [hname]
  · have hdatatype : Written.required? "datatype" Written.text? ms = none :=
      hunread.required? rfl (by simp [layout])
    simp [hdatatype]
  · have hconstraints : Written.optional? "constraints" Constraints.ofWritten? {} ms = none :=
      hunread.optional? List.mem_cons_self rfl fun w hw => Constraints.ofWritten?_spoilt hw.2
    simp [hconstraints]

theorem respells_toJson (h : ofWritten? (d + 2) w = some f) : (layout d).Respells w f.toJson.written := by
  cases w with
  | object ms =>
    rw [ofWritten?_object] at h
    obtain ⟨hw, h⟩ := Option.ite_none_right_eq_some.1 h
    rw [Written.isSome_denotes? (s := layout d) rfl] at hw
    obtain ⟨name, hname, h⟩ := Option.bind_eq_some_iff.1 h
    obtain ⟨datatype, hdatatype, h⟩ := Option.bind_eq_some_iff.1 h
    obtain ⟨constraints, hconstraints, h⟩ := Option.bind_eq_some_iff.1 h
    cases h
    obtain ⟨n, hn, hntext⟩ := Written.required?_eq_some_holds (s := layout d) hname
    obtain ⟨t, ht, httext⟩ := Written.required?_eq_some_holds (s := layout d) hdatatype
    obtain ⟨c, hc, hread⟩ := Written.optional?_eq_some_holds (s := layout d) hconstraints
      List.mem_cons_self rfl
    rw [Written.text?_eq_some_iff] at hntext httext
    rw [hntext] at hn
    rw [httext] at ht
    have hzip : (layout d).SameMembers ms [(some "name", .string (some name)),
        (some "datatype", .string (some datatype)), (some "constraints", c)] :=
      Layout.sameMembers_zip_of_denotes hw (fun _ => id) (by simp [layout])
        (.cons hn (.cons ht (.cons hc .nil)))
    have hdenotes : (c.denotes? (d + 1)).isSome := by
      rcases hc with hsole | ⟨-, hdefault⟩
      · exact (Bool.and_eq_true_iff.1 (List.all_eq_true.1 hw _ (Written.mem_of_sole? hsole))).2
      · obtain rfl : c = .object [] := by simpa [layout] using hdefault
        rfl
    exact ⟨ms, _, rfl, rfl, hzip.trans (Layout.sameMembers_concat (l := [_, _])
      ⟨rfl, Constraints.respells_toJson hread hdenotes⟩)⟩
  | _ => cases h

end Field

/-! ## Schemas -/

namespace Schema

variable {d : Nat} {w w' : Written} {s : Schema}

/-- The fields are the same, one by one. -/
def Respells (d : Nat) (w w' : Written) : Prop :=
  ∃ ws ws', w = .array ws ∧ w' = .array ws' ∧ List.Forall₂ (Field.layout d).Respells ws ws'

/-- One of the fields is faulty. -/
def Spoilt (d : Nat) (w : Written) : Prop := ∃ ws, w = .array ws ∧ ∃ f ∈ ws, (Field.layout d).Spoilt f

theorem ofWritten?_respells (h : Respells d w w') : ofWritten? (d + 3) w = ofWritten? (d + 3) w' := by
  obtain ⟨ws, ws', rfl, rfl, hfields⟩ := h
  have hread : ws.mapM (Field.ofWritten? (d + 2)) = ws'.mapM (Field.ofWritten? (d + 2)) := by
    induction hfields with
    | nil => rfl
    | cons hw _ ih => rw [List.mapM_cons, List.mapM_cons, Field.ofWritten?_respells hw, ih]
  rw [ofWritten?, ofWritten?, hread]

theorem ofWritten?_spoilt (h : Spoilt d w) : ofWritten? (d + 3) w = none := by
  obtain ⟨ws, rfl, f, hf, hspoilt⟩ := h
  have hread : ws.mapM (Field.ofWritten? (d + 2)) = none := by
    induction ws with
    | nil => cases hf
    | cons w ws ih =>
      rw [List.mapM_cons]
      rcases List.mem_cons.1 hf with rfl | hf
      · rw [Field.ofWritten?_spoilt hspoilt]
        rfl
      · rw [ih hf]
        cases Field.ofWritten? (d + 2) w <;> rfl
  rw [ofWritten?, hread]
  rfl

theorem respells_toJson (h : ofWritten? (d + 3) w = some s) : Respells d w s.toJson.written := by
  cases w with
  | array ws =>
    obtain ⟨fs, hfs, rfl⟩ := Option.map_eq_some_iff.1 h
    refine ⟨ws, Json.writtenItems (fs.map Field.toJson), rfl, rfl, ?_⟩
    clear h
    induction ws generalizing fs with
    | nil =>
      cases hfs
      exact .nil
    | cons w ws ih =>
      rw [List.mapM_cons] at hfs
      obtain ⟨f, hf, hfs⟩ := Option.bind_eq_some_iff.1 hfs
      obtain ⟨rest, hrest, hfs⟩ := Option.bind_eq_some_iff.1 hfs
      cases hfs
      exact .cons (Field.respells_toJson hf) (ih rest hrest)
  | _ => cases h

end Schema

/-! ## Models -/

namespace Model

/-- All but the table may be left out, and an array may give the members. Anything may stand under other
keys. -/
def layout (d : Nat) : Layout where
  keys := ["table", "primary_key", "external_schema", "fields"]
  positional := true
  defaults := [(some "primary_key", .string (some "_id")), (some "external_schema", .bool false),
    (some "fields", .array [])]
  unread _ := True
  alike k w w' := k = "fields" ∧ Schema.Respells d w w'
  wrong k w := k = "fields" ∧ Schema.Spoilt d w

variable {d : Nat} {w w' : Written} {ms ms' : Members} {m : Model}

theorem ofWritten?_members (h : (layout d).members? w = some ms) :
    ofWritten? (d + 4) w = ofWritten? (d + 4) (.object ms) := by
  cases w with
  | object ms' =>
    cases h
    rfl
  | array ws =>
    obtain ⟨⟨-, hlength⟩, h⟩ := Option.ite_none_right_eq_some.1 h
    cases h
    match ws, hlength with
    | [], _ => rfl
    | [_], _ => rfl
    | [_, _], _ => rfl
    | [_, _, _], _ => rfl
    | [_, _, _, _], _ => rfl
  | _ => cases h

theorem exists_members (h : ofWritten? (d + 4) w = some m) : ∃ ms, (layout d).members? w = some ms := by
  unfold ofWritten? at h
  split at h
  · cases h
  · exact ⟨_, rfl⟩
  · exact ⟨_, rfl⟩
  · exact ⟨_, rfl⟩
  · exact ⟨_, rfl⟩
  · exact ⟨_, rfl⟩
  · cases h

/-- What the members of a model say, each key in its turn. -/
def ofMembers? (d : Nat) (ms : Members) : Option Model := do
  let table ← Written.required? "table" Written.text? ms
  let primaryKey ← Written.optional? "primary_key" Written.text? "_id" ms
  let external ← Written.optional? "external_schema" Written.flag? false ms
  let fields ← Written.optional? "fields" (Schema.ofWritten? d) ∅ ms
  some { table := table, primaryKey := primaryKey, isExternal := external, schema := fields }

theorem ofWritten?_object : ofWritten? (d + 1) (.object ms) =
    if Written.keysDenote ms then ofMembers? d ms else none := by
  rw [ofWritten?, ofMembers?, Written.required?_eq_bind, Written.required?_eq_bind,
    Written.optional?_eq_bind, Written.optional?_eq_bind, Written.optional?_eq_bind]
  -- a key that cannot be read makes both fail, wherever its turn is
  generalize sole? "table" ms = table, sole? "primary_key" ms = primaryKey,
    sole? "external_schema" ms = external, sole? "fields" ms = fields
  rcases table with _ | _ | table <;> cases primaryKey <;> cases external <;> cases fields <;>
    simp [ofParts?]

theorem ofMembers?_sameMembers (h : (layout d).SameMembers ms ms') :
    ofMembers? (d + 3) ms = ofMembers? (d + 3) ms' := by
  have htable : Written.required? "table" Written.text? ms = Written.required? "table" Written.text? ms' :=
    h.required? (by simp [layout]) (by simp [layout]) (by simp [layout])
  have hprimaryKey : Written.optional? "primary_key" Written.text? "_id" ms =
      Written.optional? "primary_key" Written.text? "_id" ms' :=
    h.optional? (by simp [layout]) (by simp [layout]) (by simp [layout, Written.text?])
  have hexternal : Written.optional? "external_schema" Written.flag? false ms =
      Written.optional? "external_schema" Written.flag? false ms' :=
    h.optional? (by simp [layout]) (by simp [layout]) (by simp [layout, Written.flag?])
  have hfields : Written.optional? "fields" (Schema.ofWritten? (d + 3)) ∅ ms =
      Written.optional? "fields" (Schema.ofWritten? (d + 3)) ∅ ms' := by
    refine h.optional? (by simp [layout]) (fun w w' hw => Schema.ofWritten?_respells hw.2) ?_
    intro w hw
    obtain rfl : w = .array [] := by simpa [layout] using hw
    rfl
  rw [ofMembers?, ofMembers?, htable, hprimaryKey, hexternal, hfields]

/-- A model is read alike from all its spellings. -/
theorem ofWritten?_respells (h : (layout d).Respells w w') :
    ofWritten? (d + 4) w = ofWritten? (d + 4) w' := by
  obtain ⟨ms, ms', hms, hms', hsame⟩ := h
  rw [ofWritten?_members hms, ofWritten?_members hms', ofWritten?_object, ofWritten?_object,
    hsame.keysDenote (by simp [layout]), ofMembers?_sameMembers hsame]

theorem ofWritten?_spoilt (h : (layout d).Spoilt w) : ofWritten? (d + 4) w = none := by
  obtain ⟨ms, hms, hfaulty⟩ := h
  suffices hread : ofMembers? (d + 3) ms = none by
    rw [ofWritten?_members hms, ofWritten?_object, hread, ite_self]
  obtain ⟨k, hk, hunread⟩ := hfaulty.exists_unreadable
  have hk : k = "table" ∨ k = "primary_key" ∨ k = "external_schema" ∨ k = "fields" := by
    simpa [layout] using hk
  rw [ofMembers?]
  rcases hk with rfl | rfl | rfl | rfl
  · have htable : Written.required? "table" Written.text? ms = none :=
      hunread.required? rfl (by simp [layout])
    simp [htable]
  · have hprimaryKey : Written.optional? "primary_key" Written.text? "_id" ms = none :=
      hunread.optional? List.mem_cons_self rfl (by simp [layout])
    simp [hprimaryKey]
  · have hexternal : Written.optional? "external_schema" Written.flag? false ms = none :=
      hunread.optional? (List.mem_cons_of_mem _ List.mem_cons_self) rfl (by simp [layout])
    simp [hexternal]
  · have hfields : Written.optional? "fields" (Schema.ofWritten? (d + 3)) ∅ ms = none :=
      hunread.optional? (List.mem_cons_of_mem _ (List.mem_cons_of_mem _ List.mem_cons_self)) rfl
        fun w hw => Schema.ofWritten?_spoilt hw.2
    simp [hfields]

theorem respells_toJson (h : ofWritten? (d + 4) w = some m) :
    (layout d).Respells w m.toJson.written ∧ m.generation = some 0 := by
  obtain ⟨ms, hms⟩ := exists_members h
  rw [ofWritten?_members hms, ofWritten?_object] at h
  obtain ⟨hkeys, h⟩ := Option.ite_none_right_eq_some.1 h
  obtain ⟨table, htable, h⟩ := Option.bind_eq_some_iff.1 h
  obtain ⟨primaryKey, hprimaryKey, h⟩ := Option.bind_eq_some_iff.1 h
  obtain ⟨external, hexternal, h⟩ := Option.bind_eq_some_iff.1 h
  obtain ⟨schema, hschema, h⟩ := Option.bind_eq_some_iff.1 h
  cases h
  refine ⟨?_, rfl⟩
  obtain ⟨t, ht, httext⟩ := Written.required?_eq_some_holds (s := layout d) htable
  obtain ⟨p, hp, hptext⟩ := Written.optional?_eq_some_holds (s := layout d) hprimaryKey
    List.mem_cons_self rfl
  obtain ⟨e, he, heflag⟩ := Written.optional?_eq_some_holds (s := layout d) hexternal
    (List.mem_cons_of_mem _ List.mem_cons_self) rfl
  obtain ⟨f, hf, hfschema⟩ := Written.optional?_eq_some_holds (s := layout d) hschema
    (List.mem_cons_of_mem _ (List.mem_cons_of_mem _ List.mem_cons_self)) rfl
  rw [Written.text?_eq_some_iff] at httext hptext
  rw [Written.flag?_eq_some_iff] at heflag
  rw [httext] at ht
  rw [hptext] at hp
  rw [heflag] at he
  have hzip : (layout d).SameMembers ms [(some "table", .string (some table)),
      (some "primary_key", .string (some primaryKey)), (some "external_schema", .bool external),
      (some "fields", f)] := by
    refine Layout.sameMembers_zip (by simp [layout])
      (.cons ht (.cons hp (.cons he (.cons hf .nil)))) fun m hm => ?_
    obtain ⟨k, hk⟩ := Option.isSome_iff_exists.1 (List.all_eq_true.1 hkeys m hm)
    exact ⟨k, hk, fun _ => trivial⟩
  exact ⟨ms, _, hms, rfl, hzip.trans (Layout.sameMembers_concat (l := [_, _, _])
    ⟨rfl, Schema.respells_toJson hfschema⟩)⟩

/-- What a file allows: four of the levels of nesting hold the model, its fields, a field and its
constraints. -/
def fileLayout : Layout := layout (Json.depthLimit - 4)

section Files

variable {text text' : String} {file file' : Written}

theorem load_eq (h : Written.ofString? text = some file) :
    load (some text.toByteArray) = (ofWritten? Json.depthLimit file).elim (.error .decoding) .ok := by
  rw [load_toByteArray, ofString?, h, Option.bind_some]

theorem load_eq_ok_iff (h : Written.ofString? text = some file) :
    load (some text.toByteArray) = .ok m ↔
      fileLayout.Respells file m.toJson.written ∧ m.generation = some 0 := by
  have hiff : load (some text.toByteArray) = .ok m ↔ ofWritten? Json.depthLimit file = some m := by
    rw [load_eq h]
    cases ofWritten? Json.depthLimit file with
    | none => exact ⟨nofun, nofun⟩
    | some m' => rw [Option.elim_some, Except.ok.injEq, Option.some.injEq]
  rw [hiff]
  refine ⟨respells_toJson, ?_⟩
  rintro ⟨hrespells, hgeneration⟩
  calc
    ofWritten? Json.depthLimit file = ofWritten? Json.depthLimit m.toJson.written :=
      ofWritten?_respells hrespells
    _ = some { m with generation := some 0 } := ofWritten?_toJson
    _ = some m := by rw [← hgeneration]

theorem load_respells (h : Written.ofString? text = some file) (h' : Written.ofString? text' = some file')
    (hrespells : fileLayout.Respells file file') :
    load (some text.toByteArray) = load (some text'.toByteArray) := by
  have hread : ofWritten? Json.depthLimit file = ofWritten? Json.depthLimit file' :=
    ofWritten?_respells hrespells
  rw [load_eq h, load_eq h', hread]

theorem load_spoilt (h : Written.ofString? text = some file) (hspoilt : fileLayout.Spoilt file) :
    load (some text.toByteArray) = .error .decoding := by
  have hread : ofWritten? Json.depthLimit file = none := ofWritten?_spoilt hspoilt
  rw [load_eq h, hread]
  rfl

end Files

/-- A file is read as a model exactly if it is a spelling of the document of the model; so files that are
spellings of one another are read alike, and a file that is spoilt is refused. -/
theorem load_spellings :
    (∀ (text : String) (file : Written) (m : Model), Written.ofString? text = some file →
      (load (some text.toByteArray) = .ok m ↔
        fileLayout.Respells file m.toJson.written ∧ m.generation = some 0)) ∧
    (∀ (text text' : String) (file file' : Written), Written.ofString? text = some file →
      Written.ofString? text' = some file' → fileLayout.Respells file file' →
        load (some text.toByteArray) = load (some text'.toByteArray)) ∧
    ∀ (text : String) (file : Written), Written.ofString? text = some file → fileLayout.Spoilt file →
      load (some text.toByteArray) = .error .decoding :=
  ⟨fun _ _ _ => load_eq_ok_iff, fun _ _ _ _ => load_respells, fun _ _ => load_spoilt⟩

/-- A file with its members in another order, unknown members, a default that is written out and
constraints as an array; the same model as an array; and a file in which a field has null for its
datatype. -/
theorem load_spellings_people :
    let m : Model := ⟨"people", "_id", false, ⟨[⟨"a", ⟨"text", ⟨true, false⟩⟩⟩]⟩, some 0⟩
    let file : Json := .object
      [("fields", .array [.object [("x", .array [.null]), ("constraints", .array [.bool true]),
          ("datatype", .string "text"), ("name", .string "a")]]),
        ("note", .null), ("primary_key", .string "_id"), ("table", .string "people")]
    let array : Json := .array
      [.string "people", .string "_id", .bool false, .array [.object [("name", .string "a"),
        ("datatype", .string "text"), ("constraints", .object [("required", .bool true)])]]]
    let spoilt : Json := .object
      [("table", .string "people"),
        ("fields", .array [.object [("name", .string "a"), ("datatype", .null)]])]
    load (some file.pretty.toByteArray) = .ok m ∧
      load (some file.pretty.toByteArray) = load (some array.compact.toByteArray) ∧
      load (some spoilt.compact.toByteArray) = .error .decoding := by
  intro m file array spoilt
  obtain ⟨hload, hsame, hrefused⟩ := load_spellings
  have hfile : fileLayout.Respells file.written m.toJson.written ∧ m.generation = some 0 :=
    respells_toJson (by decide +kernel)
  have harray : fileLayout.Respells array.written m.toJson.written ∧ m.generation = some 0 :=
    respells_toJson (by decide +kernel)
  have hspoilt : fileLayout.Spoilt spoilt.written := by
    refine ⟨_, rfl, .content (k := "fields") (by decide) ⟨rfl, _, rfl, _, List.mem_singleton_self _, ?_⟩
      (List.mem_cons_of_mem _ (List.mem_singleton_self _))⟩
    exact ⟨_, rfl, .null (k := "datatype") (by decide) (List.mem_cons_of_mem _ (List.mem_singleton_self _))⟩
  have hnumberless : Json.Numberless file ∧ Json.Numberless array ∧ Json.Numberless spoilt := by
    refine ⟨?_, ?_, ?_⟩ <;>
      repeat' first | exact List.forall_mem_nil _ | refine List.forall_mem_cons.2 ⟨?_, ?_⟩ | constructor
  obtain ⟨hfiletext, harraytext, hspoilttext⟩ := hnumberless
  exact ⟨(hload _ _ m (Json.isText_pretty hfiletext).ofString?).2 hfile,
    hsame _ _ _ _ (Json.isText_pretty hfiletext).ofString? (Json.isText_compact harraytext).ofString?
      (hfile.1.trans harray.1.symm),
    hrefused _ _ (Json.isText_compact hspoilttext).ofString? hspoilt⟩

/-- A member under an unknown key of a field makes a file unreadable if its number is beyond the doubles. The
same member with another number, or beside the fields, changes nothing. -/
theorem load_refuses_unread_number :
    let file (inField inModel : String) : String :=
      "\x7b\"table\":\"t\",\"fields\":[\x7b\"name\":\"a\",\"datatype\":\"text\"" ++ inField ++ "\x7d]" ++
        inModel ++ "\x7d"
    let m : Model := { table := "t", schema := ⟨[⟨"a", ⟨"text", {}⟩⟩]⟩ }
    load (some (file "" "").toByteArray) = .ok m ∧
      load (some (file ",\"x\":1e40" "").toByteArray) = .ok m ∧
      load (some (file "" ",\"x\":1e400").toByteArray) = .ok m ∧
      (Written.ofString? (file ",\"x\":1e400" "")).isSome ∧
      load (some (file ",\"x\":1e400" "").toByteArray) = .error .decoding := by
  intro file m
  have hunread : ofString? (file ",\"x\":1e400" "") = none := by decide +kernel
  refine ⟨load_text ?_, load_text ?_, load_text ?_, by decide +kernel, ?_⟩
  · decide +kernel
  · decide +kernel
  · decide +kernel
  · rw [load_toByteArray, hunread]
    rfl

end Model

end SqlAdapter
