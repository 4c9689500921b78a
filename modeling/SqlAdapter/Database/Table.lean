import SqlAdapter.Schema.Live
import SqlAdapter.Sql.Evaluation

/-!
# Tables

A table of a database: its columns in the order of their creation and its rows in the order of their
insertion. Every row has one value for each column. A key column holds no value twice, except null.

Whether two names are the same is for the database to decide; the name rule says how.
-/

set_option autoImplicit false

namespace SqlAdapter

/-- How a database compares the names of tables and columns. -/
inductive NameRule where
  | exact
  | ignoringCase
  deriving DecidableEq, Repr

def NameRule.same : NameRule → String → String → Bool
  | exact, s, t => s = t
  | ignoringCase, s, t => Text.sameIgnoringCase s t

@[simp] theorem NameRule.same_refl (rule : NameRule) (s : String) : rule.same s s = true := by
  cases rule <;> simp [same]

@[ext] structure Table where
  name : String
  columns : List Column
  key : Option String
  rows : List (List Value)
  width : ∀ r ∈ rows, r.length = columns.length

namespace Table

instance : DecidableEq Table := fun a b =>
  decidable_of_iff (a.name = b.name ∧ a.columns = b.columns ∧ a.key = b.key ∧ a.rows = b.rows)
    Table.ext_iff.symm

def fresh (name : String) (columns : List Column) (key : Option String) : Table where
  name := name
  columns := columns
  key := key
  rows := []
  width := by simp

/-- The table with one more column, in which every row has null. -/
def addColumn (t : Table) (c : Column) : Table where
  name := t.name
  columns := t.columns ++ [c]
  key := t.key
  rows := t.rows.map (· ++ [.null])
  width := by
    intro r hr
    obtain ⟨s, hs, rfl⟩ := List.mem_map.1 hr
    simp [t.width s hs]

/-- The table with one more row, which `content` fills in column by column. -/
def addRow (t : Table) (content : Column → Value) : Table where
  name := t.name
  columns := t.columns
  key := t.key
  rows := t.rows ++ [t.columns.map content]
  width := by
    intro r hr
    rcases List.mem_append.1 hr with hr | hr
    · exact t.width r hr
    · simp_all

variable (rule : NameRule) (t : Table)

def column? (name : String) : Option Column := t.columns.find? fun c => rule.same c.name name

def has (name : String) : Bool := (t.column? rule name).isSome

/-- The content of a column in a row. -/
def read (row : List Value) (name : String) : Value :=
  .ofOption (((t.columns.zip row).find? fun p => rule.same p.1.name name).map Prod.snd)

/-- The value that a list of named values gives a column; of two for one column the first counts. -/
def assigned (names : List String) (values : List Value) (c : Column) : Value :=
  .ofOption (((names.zip values).find? fun p => rule.same c.name p.1).map Prod.snd)

/-- The first of some names that no column has. -/
def unknown? (names : List String) : Option String := names.find? fun n => !t.has rule n

/-- Whether some row has this value, which is not null, in the key column. -/
def keyTaken (key : String) (v : Value) : Bool :=
  v ≠ .null && t.rows.any fun r => (t.read rule r key).order v = .eq

def record (row : List Value) : Record := .ofList ((t.columns.map Column.name).zip row)

def rowOrder (r s : List Value) : List (String × Direction) → Ordering
  | [] => .eq
  | (name, direction) :: rest =>
    match direction.orient ((t.read rule r name).order (t.read rule s name)) with
    | .eq => rowOrder r s rest
    | o => o

/-- Puts a row in front of the first that does not come before it. -/
def place (order : List (String × Direction)) (r : List Value) : List (List Value) → List (List Value)
  | [] => [r]
  | s :: rest =>
    if t.rowOrder rule s r order = .lt then s :: place order r rest else r :: s :: rest

/-- The rows in the given order; rows that it does not tell apart keep their own. -/
def arrange (order : List (String × Direction)) (rows : List (List Value)) : List (List Value) :=
  rows.foldr (t.place rule order) []

/-- Drops the first rows and limits the number of the others. A negative limit is no limit. -/
def page {α : Type} (limit : Option Int) (offset : Option Nat) (rows : List α) : List α :=
  let rest := rows.drop (offset.getD 0)
  match limit with
  | some n => if n < 0 then rest else rest.take n.toNat
  | none => rest

/-- Whether a row passes the condition of a selection. -/
def passes (condition : Option Sql.Condition) (values : List Value) (row : List Value) : Bool :=
  match condition with
  | some c => Sql.conditionTruth (t.read rule row) c values = .true
  | none => true

def selected (s : Sql.Select) (values : List Value) : List (List Value) :=
  page s.limit s.offset
    (t.arrange rule s.order (t.rows.filter (t.passes rule s.condition values)))

@[simp] theorem arrange_nil (rows : List (List Value)) : t.arrange rule [] rows = rows := by
  induction rows with
  | nil => rfl
  | cons r rows ih =>
    have h : t.arrange rule [] (r :: rows) = t.place rule [] r (t.arrange rule [] rows) := rfl
    rw [h, ih]
    cases rows <;> simp [place, rowOrder]

end Table

end SqlAdapter
