import SqlAdapter.Error
import SqlAdapter.Json.Printer
import SqlAdapter.Sql.Command
import SqlAdapter.Text.Blank

/-!
# Sort specifications

A sort is a sequence of pairs of a field and a direction, or an object from fields to directions. The
entries of a sequence are judged when the sort is put in order, not when it is read. A direction is
ascending for the number one, true, and the words `1`, `asc` and `ascending`; all else is descending.
-/

set_option autoImplicit false

namespace SqlAdapter

def Json.Number.isOne : Json.Number → Bool
  | .integer n => n.val = 1
  | .float x => x = .one

def Direction.isAscendingWord (s : String) : Bool :=
  let word := (Text.trim s.toList).map Char.toLower
  word = ['1'] || word = "asc".toList || word = "ascending".toList

/-- The direction that a document states. -/
def Direction.ofDocument (j : Json) : Direction :=
  let up := match j with
    | .number n => n.isOne
    | .bool b => b
    | .string s => isAscendingWord s
    | _ => false
  if up then .ascending else .descending

inductive SortSpec where
  | sequence (entries : List Json)
  | keyed (members : List (String × Json))

namespace SortSpec

/-- The sequence of the given pairs of a field and a number for its direction. -/
def ordered (pairs : List (String × Int64)) : SortSpec :=
  .sequence (pairs.map fun p => .array [.string p.1, .number (.integer (.ofInt64 p.2))])

def ofDocument : Json → Except CompileError SortSpec
  | .array entries => .ok (.sequence entries)
  | .object members => .ok (.keyed members)
  | j => .error (.malformedSort j.compact)

def entry : Json → Except CompileError (String × Direction)
  | .array [.string field, direction] => .ok (field, .ofDocument direction)
  | j => .error (.malformedSort j.compact)

/-- The fields in their order, each with its direction. -/
def normalize : SortSpec → Except CompileError (List (String × Direction))
  | sequence entries => entries.mapM entry
  | keyed members => .ok (members.map fun m => (m.1, .ofDocument m.2))

@[simp] theorem normalize_keyed (members : List (String × Json)) :
    (keyed members).normalize = .ok (members.map fun m => (m.1, .ofDocument m.2)) := rfl

theorem normalize_ordered (pairs : List (String × Int64)) :
    (ordered pairs).normalize =
      .ok (pairs.map fun p => (p.1, if p.2 = 1 then .ascending else .descending)) := by
  induction pairs with
  | nil => rfl
  | cons p ps ih =>
    have hp : (p.2.toInt = 1) ↔ p.2 = 1 := by
      rw [← Int64.toInt_inj]; rfl
    simp only [ordered, normalize] at ih
    simp [ordered, normalize, entry, ih, Direction.ofDocument, Json.Number.isOne, hp,
      bind, Except.bind, pure, Except.pure]

end SortSpec

end SqlAdapter
