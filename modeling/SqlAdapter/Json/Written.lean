import SqlAdapter.Json.Basic

/-!
# Documents as written

A text that follows the grammar of JSON has a tree even where it denotes no document: a number may be
too large for every double, an escape may be half of a surrogate pair, and a key may be repeated.
`Written` keeps the members in their order with their repetitions and marks a leaf that denotes
nothing. `document?` is the document that a written text denotes: every leaf must denote something
and arrays and objects may be nested at most `depthLimit` deep; the members come in key order, and of
a repeated key the last one counts.
-/

set_option autoImplicit false

namespace SqlAdapter

namespace Json

inductive Written where
  | null
  | bool (b : Bool)
  | number (n : Option Number)
  | string (s : Option String)
  | array (items : List Written)
  | object (members : List (Option String × Written))

/-- How many arrays and objects may be nested in a document. -/
def depthLimit : Nat := 127

namespace Written

mutual

/-- The document denoted within `depth` levels of nesting. -/
def denotes? (depth : Nat) : Written → Option Json
  | .null => some .null
  | .bool b => some (.bool b)
  | .number n => n.map .number
  | .string s => s.map .string
  | .array items =>
    match depth with
    | 0 => none
    | d + 1 => (itemsDenote? d items).map .array
  | .object members =>
    match depth with
    | 0 => none
    | d + 1 => (membersDenote? d members).map fun ms => .object (Keyed.ofList ms)

def itemsDenote? (depth : Nat) : List Written → Option (List Json)
  | [] => some []
  | x :: xs => do
    let y ← x.denotes? depth
    let ys ← itemsDenote? depth xs
    some (y :: ys)

def membersDenote? (depth : Nat) : List (Option String × Written) → Option (List (String × Json))
  | [] => some []
  | (k, x) :: ms => do
    let key ← k
    let y ← x.denotes? depth
    let rest ← membersDenote? depth ms
    some ((key, y) :: rest)

end

def document? (w : Written) : Option Json := w.denotes? depthLimit

end Written

mutual

/-- A document written out, member by member. -/
def written : Json → Written
  | .null => .null
  | .bool b => .bool b
  | .number n => .number (some n)
  | .string s => .string (some s)
  | .array items => .array (writtenItems items)
  | .object members => .object (writtenMembers members)

def writtenItems : List Json → List Written
  | [] => []
  | x :: xs => x.written :: writtenItems xs

def writtenMembers : List (String × Json) → List (Option String × Written)
  | [] => []
  | (k, x) :: ms => (some k, x.written) :: writtenMembers ms

end

end Json

end SqlAdapter
