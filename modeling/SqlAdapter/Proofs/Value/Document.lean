import SqlAdapter.Record

/-!
# Values written and read

A document of a value is read in two ways. `decode?` tries the kinds of a value one after the other, which
comes to a choice by the kind of the document; it gets back what was written, with null for a float that
has no numeral. `ofJson`, which binds any document, agrees with it on everything but arrays and objects, so
the two differ on what a value can be written as in one place: the bytes of a blob, which `ofJson` binds as
the text of their array. A record is read with `ofJson`, hence survives if it holds no such value.
-/

set_option autoImplicit false

namespace SqlAdapter

namespace Value

/-! ### Kinds, one after the other -/

def null? : Json → Option Value
  | .null => some null
  | _ => none

def bool? : Json → Option Value
  | .bool b => some (bool b)
  | _ => none

/-- A number that is a signed 64-bit integer. -/
def int? : Json → Option Value
  | .number n => n.toInt64?.map int
  | _ => none

/-- Any number, an integer too. -/
def float? : Json → Option Value
  | .number n => some (float n.toBinary64)
  | _ => none

def text? : Json → Option Value
  | .string s => some (text s)
  | _ => none

/-- An array of bytes, of which the empty array is one. -/
def blob? : Json → Option Value
  | .array items => (items.mapM byte?).map blob
  | _ => none

/-- The readings of a document as a value of one kind, in the order in which they are tried. -/
def kinds : List (Json → Option Value) := [null?, bool?, int?, float?, text?, blob?]

/-- The first kind that fits decides. -/
theorem decode?_eq_findSome? (j : Json) : decode? j = kinds.findSome? fun read => read j := by
  cases j with
  | number n =>
    cases hn : n.toInt64? <;> simp [kinds, List.findSome?, decode?, ofNumber, null?, bool?, int?, float?, hn]
  | array items =>
    cases hb : items.mapM byte? <;>
      simp [kinds, List.findSome?, decode?, null?, bool?, int?, float?, text?, blob?, hb]
  | _ => rfl

/-! ### Reading back -/

/-- The value with null in place of a float that is not finite. -/
def finite : Value → Value
  | float x => if x.isFinite then float x else null
  | v => v

def isBlob : Value → Bool
  | blob _ => true
  | _ => false

variable {v : Value} {j : Json} {b : UInt8} {bytes : List UInt8} {n : Json.Number}

theorem finite_eq_self_iff : v.finite = v ↔ ∀ x, v = float x → x.isFinite := by
  cases v <;> simp [finite]

theorem ofNat_toNat :
    ∃ n : Json.Integer, n.val = b.toNat ∧ Json.ofNat b.toNat = .number (.integer n) := by
  have hlower : -9223372036854775808 ≤ (b.toNat : Int) := by omega
  have hupper : (b.toNat : Int) < 18446744073709551616 := by have := b.toNat_lt; omega
  refine ⟨⟨b.toNat, hlower, hupper⟩, rfl, ?_⟩
  rw [Json.ofNat, Json.Integer.ofInt?, dif_pos ⟨hlower, hupper⟩]
  rfl

theorem byte?_ofNat : byte? (.ofNat b.toNat) = some b := by
  obtain ⟨n, hn, hwritten⟩ := ofNat_toNat (b := b)
  have hbyte : 0 ≤ n.val ∧ n.val < 256 := by have := b.toNat_lt; omega
  rw [hwritten, byte?, if_pos hbyte, hn, Int.toNat_natCast, UInt8.ofNat_toNat]

theorem mapM_byte? : (bytes.map fun b => Json.ofNat b.toNat).mapM byte? = some bytes := by
  induction bytes with
  | nil => rfl
  | cons b bytes ih => simp [byte?_ofNat, ih]

theorem decode?_toJson (v : Value) : decode? v.toJson = some v.finite := by
  cases v with
  | float x => by_cases hx : x.isFinite <;> simp [toJson, finite, decode?, hx]
  | blob bytes => exact congrArg (Option.map blob) mapM_byte?
  | _ => simp [toJson, finite, decode?]

theorem decode?_eq_ofJson (harray : ∀ items, j ≠ .array items)
    (hobject : ∀ members, j ≠ .object members) : decode? j = some (ofJson j) := by
  cases j with
  | array items => exact absurd rfl (harray items)
  | object members => exact absurd rfl (hobject members)
  | _ => rfl

theorem ofJson_toJson (h : v.isBlob = false) : ofJson v.toJson = v.finite := by
  cases v with
  | float x => by_cases hx : x.isFinite <;> simp [toJson, finite, ofJson, hx]
  | blob bytes => cases h
  | _ => simp [toJson, finite, ofJson]

theorem ofJson_toJson_eq_self_iff :
    ofJson v.toJson = v ↔ v.isBlob = false ∧ ∀ x, v = float x → x.isFinite := by
  cases h : v.isBlob with
  | false => rw [ofJson_toJson h, finite_eq_self_iff, eq_self, true_and]
  | true =>
    cases v <;> cases h
    exact ⟨nofun, nofun⟩

/-! ### Numbers -/

theorem exists_eq_ofInt64 {i : Json.Integer} (h : i.val < 9223372036854775808) :
    ∃ m : Int64, Json.Number.integer i = .integer (.ofInt64 m) := by
  have hval : (Int64.ofInt i.val).toInt = i.val := Int64.toInt_ofInt_of_le i.lower h
  refine ⟨Int64.ofInt i.val, ?_⟩
  cases i
  simp_all [Json.Integer.ofInt64]

theorem toInt64?_eq_none (h : ∀ i, n ≠ .integer (.ofInt64 i)) : n.toInt64? = none := by
  cases n with
  | float x => rfl
  | integer i =>
    refine if_neg fun hi => ?_
    obtain ⟨m, hm⟩ := exists_eq_ofInt64 hi
    exact h m hm

/-- An integer in the range of 64 bits is bound as an integer, any other number as the nearest float. -/
theorem ofJson_number (n : Json.Number) :
    (∃ i, n = .integer (.ofInt64 i) ∧ ofJson (.number n) = int i) ∨
      (∀ i, n ≠ .integer (.ofInt64 i)) ∧ ofJson (.number n) = float n.toBinary64 := by
  by_cases h : ∃ i, n = .integer (.ofInt64 i)
  · obtain ⟨i, rfl⟩ := h
    exact .inl ⟨i, rfl, ofNumber_ofInt64 i⟩
  · have hne := not_exists.1 h
    refine .inr ⟨hne, ?_⟩
    rw [ofJson, ofNumber, toInt64?_eq_none hne]

/-! ### The text bound for a blob -/

/-- The decimal numerals of the bytes, with commas between them, in brackets. -/
def arrayText (bytes : List UInt8) : String :=
  String.ofList ('[' :: ([','].intercalate (bytes.map fun b => Text.natural b.toNat) ++ [']']))

theorem chars_ofNat : (Json.ofNat b.toNat).chars = Text.natural b.toNat := by
  obtain ⟨n, hn, hwritten⟩ := ofNat_toNat (b := b)
  rw [hwritten, Json.chars, Json.numberChars, hn]
  rfl

theorem itemsChars_bytes :
    Json.itemsChars (bytes.map fun b => Json.ofNat b.toNat) =
      bytes.flatMap (fun b => ',' :: Text.natural b.toNat) ++ [']'] := by
  induction bytes with
  | nil => rfl
  | cons b bytes ih => simp [Json.itemsChars, chars_ofNat, ih]

theorem intercalate_cons {x : List Char} {l : List (List Char)} :
    [','].intercalate (x :: l) = x ++ l.flatMap fun y => ',' :: y := by
  induction l generalizing x with
  | nil => simp [List.intercalate]
  | cons y l ih => simp_all [List.intercalate, List.intersperse]

theorem chars_toJson_blob :
    (blob bytes).toJson.chars =
      '[' :: ([','].intercalate (bytes.map fun b => Text.natural b.toNat) ++ [']']) := by
  cases bytes with
  | nil => rfl
  | cons b bytes =>
    rw [toJson, List.map_cons, Json.chars.eq_def]
    simp only [chars_ofNat, itemsChars_bytes, List.map_cons, intercalate_cons, List.flatMap_map,
      List.append_assoc]

theorem ofJson_toJson_blob (bytes : List UInt8) : ofJson (blob bytes).toJson = text (arrayText bytes) :=
  congrArg (fun l => text (String.ofList l)) chars_toJson_blob

end Value

namespace Record

variable {r : Record}

/-- The record with every value written and bound again. -/
def rebound (r : Record) : Record where
  entries := r.entries.map fun m => (m.1, Value.ofJson m.2.toJson)
  ascending := List.pairwise_map.2 (r.ascending.imp id)

theorem ofDocument_toJson (r : Record) : ofDocument r.toJson = .ok r.rebound := by
  refine congrArg Except.ok (Record.ext ?_)
  rw [← Keyed.ofList_of_ascending r.rebound.ascending]
  simp only [ofList, rebound, List.map_map, Function.comp_def]

theorem names_rebound (r : Record) : r.rebound.names = r.names := by
  simp [names, rebound, Function.comp_def]

theorem rebound_eq_self_iff : r.rebound = r ↔ ∀ v ∈ r.values, Value.ofJson v.toJson = v := by
  constructor
  · intro h v hv
    obtain ⟨m, hm, rfl⟩ := List.mem_map.1 hv
    have hentries : r.entries.map (fun m => (m.1, Value.ofJson m.2.toJson)) = r.entries.map id :=
      (congrArg entries h).trans r.entries.map_id.symm
    exact congrArg Prod.snd (List.map_inj_left.1 hentries m hm)
  · intro h
    refine Record.ext ((List.map_congr_left fun m hm => ?_).trans r.entries.map_id)
    exact Prod.ext rfl (h m.2 (List.mem_map_of_mem hm))

end Record

/-- A document read kind by kind is the value it was written for, with null for a float that is not finite,
and bound without regard to kinds it is the same value, save that a blob becomes the text of its array. On
documents that are neither arrays nor objects the two readings never differ. So a record is bound again
with the names it has, and with its values exactly if none is a blob or a float that is not finite. -/
theorem Value.readings_agree :
    (∀ j, decode? j = kinds.findSome? fun read => read j) ∧
    (∀ v : Value, decode? v.toJson = some v.finite ∧ (v.isBlob = false → ofJson v.toJson = v.finite)) ∧
    (∀ bytes, ofJson (blob bytes).toJson = text (arrayText bytes)) ∧
    (∀ j, (∀ items, j ≠ .array items) → (∀ members, j ≠ .object members) →
      decode? j = some (ofJson j)) ∧
    (∀ n : Json.Number, (∃ i, n = .integer (.ofInt64 i) ∧ ofJson (.number n) = int i) ∨
      (∀ i, n ≠ .integer (.ofInt64 i)) ∧ ofJson (.number n) = float n.toBinary64) ∧
    ∀ r : Record, ∃ r', Record.ofDocument r.toJson = .ok r' ∧ r'.names = r.names ∧
      (r' = r ↔ ∀ v ∈ r.values, v.isBlob = false ∧ ∀ x, v = float x → x.isFinite) := by
  refine ⟨decode?_eq_findSome?, fun v => ⟨decode?_toJson v, ofJson_toJson⟩, ofJson_toJson_blob,
    fun j => decode?_eq_ofJson, ofJson_number, fun r => ?_⟩
  refine ⟨r.rebound, r.ofDocument_toJson, r.names_rebound, r.rebound_eq_self_iff.trans ?_⟩
  exact forall₂_congr fun v _ => ofJson_toJson_eq_self_iff

/-- The least integer of 64 bits, the first number beyond them, a blob without bytes, and a record with an
infinity in it. -/
theorem Value.readings_agree_at_bounds :
    let beyond : Json := .number (.integer ⟨9223372036854775808, by decide, by decide⟩)
    let least := int Int64.minValue
    let infinity := float ⟨0x7FF0000000000000⟩
    let r := Record.ofList [("n", least), ("x", infinity)]
    (decode? beyond = some (ofJson beyond) ∧ ofJson beyond = float ⟨0x43E0000000000000⟩) ∧
    (decode? least.toJson = some least ∧ ofJson least.toJson = least) ∧
    (decode? (blob []).toJson = some (blob []) ∧ ofJson (blob []).toJson = text "[]") ∧
    ∃ r', Record.ofDocument r.toJson = .ok r' ∧ r'.names = ["n", "x"] ∧ r' ≠ r := by
  intro beyond least infinity r
  obtain ⟨-, hback, hblob, hscalar, -, hrecord⟩ := readings_agree
  refine ⟨⟨hscalar beyond nofun nofun, by decide +kernel⟩,
    ⟨(hback least).1, (hback least).2 rfl⟩, ⟨(hback (blob [])).1, hblob []⟩, ?_⟩
  obtain ⟨r', hr', hnames, hsame⟩ := hrecord r
  refine ⟨r', hr', hnames.trans (by decide +kernel), mt hsame.1 fun h => ?_⟩
  have hmem : infinity ∈ r.values := by decide +kernel
  exact absurd ((h infinity hmem).2 _ rfl) (by decide)

end SqlAdapter
