import SqlAdapter.Datatype

/-!
# Declared schemas

The fields that a model declares, in the order of their declaration. A declaration names its datatype
by a text, which is judged only when the field has to become a column. `insert` gives a present field
its new declaration in place and appends an absent one; `remove` takes the first field of a name.
-/

set_option autoImplicit false

namespace SqlAdapter

structure Constraints where
  /-- Every record has a value for the field. -/
  required : Bool := false
  /-- No two records have the same value. -/
  unique : Bool := false
  deriving DecidableEq, Repr

/-- What a declaration says of a field besides its name. -/
structure Descriptor where
  datatype : String
  constraints : Constraints := {}
  deriving DecidableEq, Repr

/-- The declaration of a datatype without constraints. -/
def Datatype.descriptor (d : Datatype) : Descriptor := { datatype := d.name }

structure Field where
  name : String
  descriptor : Descriptor
  deriving DecidableEq, Repr

@[ext] structure Schema where
  fields : List Field
  deriving DecidableEq, Repr

namespace Schema

instance : EmptyCollection Schema := ⟨⟨[]⟩⟩

def names (s : Schema) : List String := s.fields.map Field.name

/-- The fields in the order of their declaration, each as its name and its descriptor. -/
def toList (s : Schema) : List (String × Descriptor) := s.fields.map fun f => (f.name, f.descriptor)

def size (s : Schema) : Nat := s.fields.length

def isEmpty (s : Schema) : Bool := s.fields.isEmpty

def get? (s : Schema) (name : String) : Option Descriptor :=
  (s.fields.find? fun f => f.name = name).map Field.descriptor

def insertInto (name : String) (d : Descriptor) : List Field → List Field
  | [] => [⟨name, d⟩]
  | f :: r => if f.name = name then ⟨name, d⟩ :: r else f :: insertInto name d r

def insert (s : Schema) (name : String) (d : Descriptor) : Schema := ⟨insertInto name d s.fields⟩

def removeFrom (name : String) : List Field → Option Descriptor × List Field
  | [] => (none, [])
  | f :: r =>
    if f.name = name then (some f.descriptor, r)
    else ((removeFrom name r).1, f :: (removeFrom name r).2)

/-- The declaration of a field and the schema without it. -/
def remove (s : Schema) (name : String) : Option Descriptor × Schema :=
  ((removeFrom name s.fields).1, ⟨(removeFrom name s.fields).2⟩)

def insertAll (s : Schema) (l : List Field) : Schema :=
  l.foldl (fun s f => s.insert f.name f.descriptor) s

variable {s : Schema} {n n' : String} {d : Descriptor}

@[simp] theorem fields_empty : (∅ : Schema).fields = [] := rfl

theorem get?_insert : (s.insert n d).get? n' = if n = n' then some d else s.get? n' := by
  obtain ⟨l⟩ := s
  simp only [get?, insert]
  induction l with
  | nil => by_cases h : n = n' <;> simp [insertInto, h]
  | cons f r ih =>
    by_cases hf : f.name = n
    · by_cases h : n = n' <;> simp_all [insertInto]
    · by_cases h : f.name = n'
      · subst h
        simp [insertInto, hf, Ne.symm hf]
      · simpa [insertInto, hf, h] using ih

theorem fst_remove : (s.remove n).1 = s.get? n := by
  obtain ⟨l⟩ := s
  simp only [remove, get?]
  induction l with
  | nil => rfl
  | cons f r ih => by_cases h : f.name = n <;> simp_all [removeFrom]

theorem names_insert : (s.insert n d).names = if n ∈ s.names then s.names else s.names ++ [n] := by
  obtain ⟨l⟩ := s
  simp only [names, insert]
  induction l with
  | nil => simp [insertInto]
  | cons f r ih =>
    by_cases h : f.name = n
    · simp [insertInto, h]
    · by_cases hr : n ∈ r.map Field.name
      · simp_all [insertInto]
      · simp_all [insertInto, Ne.symm h]

theorem filter_insert {p : String → Bool} (h : p n = false) :
    (s.insert n d).fields.filter (fun f => p f.name) = s.fields.filter fun f => p f.name := by
  obtain ⟨fields⟩ := s
  show (insertInto n d fields).filter _ = fields.filter _
  induction fields with
  | nil => simp [insertInto, h]
  | cons f r ih =>
    by_cases hf : f.name = n
    · simp [insertInto, hf, h]
    · simp only [insertInto, if_neg hf, List.filter_cons, ih]

end Schema

end SqlAdapter
