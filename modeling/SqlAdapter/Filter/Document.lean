import SqlAdapter.Error
import SqlAdapter.Filter.Basic
import SqlAdapter.Value.Json

/-!
# Filter documents

A document states a filter: its members are joined by AND in the order of the keys. The keys `$and`,
`$or` and `$not` combine documents, every other key is a field. A field is compared with a plain value,
or tested by the members of an object whose keys all begin with a dollar sign. The empty document and
null state no filter.
-/

set_option autoImplicit false

namespace SqlAdapter.Filter

/-- Keys that begin with a dollar sign are operators. -/
def isOperator (key : String) : Bool := key.toList.head? = some '$'

def invalid {α : Type} (detail : String) : Except CompileError α := .error (.invalidFilter detail)

/-- The comparison that an operator on a field stands for. -/
def comparison? : String → Option Comparison
  | "$eq" => some .eq
  | "$ne" => some .ne
  | "$gt" => some .gt
  | "$gte" => some .gte
  | "$lt" => some .lt
  | "$lte" => some .lte
  | _ => none

/-- Equality and inequality with null are the null tests. -/
def compareWith (field : String) (op : Comparison) (operand : Json) : Atom :=
  match op, operand with
  | .eq, .null => .isNull field
  | .ne, .null => .isNotNull field
  | op, x => .compare field op (Value.ofJson x)

/-- The test of a field by one operator. -/
def ofOperator (field op : String) (operand : Json) : Except CompileError Atom :=
  match comparison? op with
  | some c => .ok (compareWith field c operand)
  | none =>
    match op, operand with
    | "$in", .array items => .ok (.oneOf field (items.map Value.ofJson))
    | "$in", _ => invalid ("$in on '" ++ field ++ "' expects an array")
    | "$nin", .array items => .ok (.noneOf field (items.map Value.ofJson))
    | "$nin", _ => invalid ("$nin on '" ++ field ++ "' expects an array")
    | "$like", .string pattern => .ok (.like field pattern)
    | "$like", _ => invalid ("$like on '" ++ field ++ "' expects a string")
    | "$exists", .bool true => .ok (.isNotNull field)
    | "$exists", .bool false => .ok (.isNull field)
    | "$exists", _ => invalid ("$exists on '" ++ field ++ "' expects a boolean")
    | op, _ => .error (.unsupportedOperator op)

def ofOperators (field : String) : List (String × Json) → Except CompileError (List Filter)
  | [] => .ok []
  | (op, x) :: ms => do
    let a ← ofOperator field op x
    let fs ← ofOperators field ms
    .ok (.atom a :: fs)

/-- The test of a field that is compared with a plain value. -/
def ofPlain (field : String) (x : Json) : Filter := .atom (compareWith field .eq x)

/-- What a field is tested for. -/
def ofField (field : String) (x : Json) : Except CompileError Filter :=
  match x with
  | .object ms =>
    if ms.all fun m => !isOperator m.1 then .ok (ofPlain field x)
    else if ms.all fun m => isOperator m.1 then do
      let fs ← ofOperators field ms
      .ok ((Formula.conjunction? fs).getD (ofPlain field x))
    else invalid ("'" ++ field ++ "' mixes operators and plain keys")
  | x => .ok (ofPlain field x)

/-- The filter of a document that must state one. -/
def required (what : String) : Option Filter → Except CompileError Filter
  | some f => .ok f
  | none => invalid what

mutual

/-- The filter that a document states, if it states any. -/
def ofDocument : Json → Except CompileError (Option Filter)
  | .object ms => do
    let fs ← ofMembers ms
    .ok (Formula.conjunction? fs)
  | .null => .ok none
  | x => invalid ("expected an object, got " ++ x.compact)

def ofMembers : List (String × Json) → Except CompileError (List Filter)
  | [] => .ok []
  | (key, x) :: ms => do
    let f ←
      if key = "$and" ∨ key = "$or" then
        match x with
        | .array [] => invalid (key ++ " expects at least one branch")
        | .array items => do
          let fs ← ofBranches key items
          required ("empty branch in " ++ key)
            (if key = "$and" then Formula.conjunction? fs else Formula.disjunction? fs)
        | _ => invalid (key ++ " expects an array")
      else if key = "$not" then do
        let f ← ofDocument x
        let f ← required "empty $not" f
        .ok (.not f)
      else if isOperator key then .error (.unsupportedOperator key)
      else ofField key x
    let fs ← ofMembers ms
    .ok (f :: fs)

/-- The filters of the branches under `key`, each of which must state one. -/
def ofBranches (key : String) : List Json → Except CompileError (List Filter)
  | [] => .ok []
  | x :: xs => do
    let f ← ofDocument x
    let f ← required ("empty branch in " ++ key) f
    let fs ← ofBranches key xs
    .ok (f :: fs)

end

end SqlAdapter.Filter
