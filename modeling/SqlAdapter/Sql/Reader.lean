import SqlAdapter.Sql.Text

/-!
# Reading a command

The inverse of the text of a command. Every part of a text is known by its first characters: a name by
its quote, a keyword by its letters, a combined condition by its parenthesis. Lists and nested
conditions are read with a fuel that the length of the text bounds.
-/

set_option autoImplicit false

namespace SqlAdapter.Sql

/-- What follows the given beginning of a text. -/
def after? : List Char → List Char → Option (List Char)
  | [], s => some s
  | _ :: _, [] => none
  | c :: p, d :: s => if c = d then after? p s else none

@[simp] theorem after?_append (p s : List Char) : after? p (p ++ s) = some s := by
  induction p with
  | nil => rfl
  | cons c p ih => simp [after?, ih]

def keyword? (k : String) (s : List Char) : Option (List Char) := after? k.toList s

def readName? (d : Dialect) (s : List Char) : Option (String × List Char) :=
  (Text.Quoted.read d.quote s).map fun p => (String.ofList p.1, p.2)

def readInt? (s : List Char) : Option (Int × List Char) :=
  match keyword? "-" s with
  | some r => (Text.readNatural? r).map fun p => (-(p.1 : Int), p.2)
  | none => (Text.readNatural? s).map fun p => ((p.1 : Int), p.2)

/-- Question marks up to the closing parenthesis, at least one. -/
def readMarks? : List Char → Option (Nat × List Char)
  | '?' :: ')' :: r => some (1, r)
  | '?' :: ',' :: ' ' :: r => (readMarks? r).map fun p => (p.1 + 1, p.2)
  | _ => none

def readCount? : List Char → Option (Nat × List Char)
  | ')' :: r => some (0, r)
  | s => readMarks? s

/-- The tests of a column that are written with a fixed text. -/
def fixedTests (column : String) : List Test :=
  [.compare column .eq, .compare column .ne, .compare column .gt, .compare column .gte,
   .compare column .lt, .compare column .lte, .isNull column, .isNotNull column, .like column,
   .between column]

def readTest? (d : Dialect) (s : List Char) : Option (Test × List Char) :=
  match keyword? "1 = 1" s, keyword? "1 = 0" s with
  | some r, _ => some (.constant true, r)
  | none, some r => some (.constant false, r)
  | none, none => do
    let (column, r) ← readName? d s
    match keyword? " IN (" r, keyword? " NOT IN (" r with
    | some r, _ => (readCount? r).map fun p => (.isIn column p.1, p.2)
    | none, some r => (readCount? r).map fun p => (.notIn column p.1, p.2)
    | none, none => (fixedTests column).findSome? fun t => (after? t.rest r).map fun r => (t, r)

def readCondition? (d : Dialect) : Nat → List Char → Option (Condition × List Char)
  | 0, _ => none
  | n + 1, s =>
    match keyword? "NOT (" s, keyword? "(" s with
    | some r, _ => do
      let (f, r) ← readCondition? d n r
      let r ← keyword? ")" r
      some (.not f, r)
    | none, some r => do
      let (f, r) ← readCondition? d n r
      match keyword? ") AND (" r, keyword? ") OR (" r with
      | some r, _ => do
        let (g, r) ← readCondition? d n r
        let r ← keyword? ")" r
        some (.and f g, r)
      | none, some r => do
        let (g, r) ← readCondition? d n r
        let r ← keyword? ")" r
        some (.or f g, r)
      | none, none => none
    | none, none => (readTest? d s).map fun p => (.atom p.1, p.2)

def readDirection? (s : List Char) : Option (Direction × List Char) :=
  match keyword? " ASC" s, keyword? " DESC" s with
  | some r, _ => some (.ascending, r)
  | none, some r => some (.descending, r)
  | none, none => none

def readOrder? (d : Dialect) : Nat → List Char → Option (List (String × Direction) × List Char)
  | 0, _ => none
  | n + 1, s => do
    let (column, r) ← readName? d s
    let (direction, r) ← readDirection? r
    match keyword? ", " r with
    | some r => do
      let (rest, r) ← readOrder? d n r
      some ((column, direction) :: rest, r)
    | none => some ([(column, direction)], r)

/-- Names up to the closing parenthesis, at least one. -/
def readNames? (d : Dialect) : Nat → List Char → Option (List String × List Char)
  | 0, _ => none
  | n + 1, s => do
    let (name, r) ← readName? d s
    match keyword? ", " r, keyword? ")" r with
    | some r, _ => do
      let (rest, r) ← readNames? d n r
      some (name :: rest, r)
    | none, some r => some ([name], r)
    | none, none => none

/-- Placeholders with their names up to the end, at least one. -/
def readEcho? (d : Dialect) : Nat → List Char → Option (List String)
  | 0, _ => none
  | n + 1, s => do
    let r ← keyword? "? AS " s
    let (name, r) ← readName? d r
    match r with
    | [] => some [name]
    | r => do
      let r ← keyword? ", " r
      let rest ← readEcho? d n r
      some (name :: rest)

/-- Reads an optional part of a statement, which begins with a keyword of its own. -/
def readPart? {α : Type} (k : String) (read : List Char → Option (α × List Char))
    (s : List Char) : Option (Option α × List Char) :=
  match keyword? k s with
  | some r => (read r).map fun p => (some p.1, p.2)
  | none => some (none, s)

def readSelect? (d : Dialect) (s : List Char) : Option Select := do
  let fuel := s.length + 1
  let r ← keyword? "SELECT * FROM " s
  let (table, r) ← readName? d r
  let (condition, r) ← readPart? " WHERE " (readCondition? d fuel) r
  let (order, r) ← readPart? " ORDER BY " (readOrder? d fuel) r
  let (limit, r) ← readPart? " LIMIT " readInt? r
  let (offset, r) ← readPart? " OFFSET " Text.readNatural? r
  match r with
  | [] => some ⟨table, condition, order.getD [], limit, offset⟩
  | _ => none

def readInsert? (d : Dialect) (s : List Char) : Option (String × List String) := do
  let r ← keyword? "INSERT INTO " s
  let (table, r) ← readName? d r
  let r ← keyword? " (" r
  let (columns, r) ← readNames? d (s.length + 1) r
  let r ← keyword? " VALUES (" r
  let (count, r) ← readCount? r
  match r with
  | [] => if count = columns.length then some (table, columns) else none
  | _ => none

def readCreateTable? (d : Dialect) (s : List Char) : Option (String × String) := do
  let r ← keyword? "CREATE TABLE IF NOT EXISTS " s
  let (table, r) ← readName? d r
  let r ← keyword? " (" r
  let (key, r) ← readName? d r
  let r ← keyword? (" " ++ d.keyType ++ " PRIMARY KEY)") r
  match r with
  | [] => some (table, key)
  | _ => none

def readAddColumn? (d : Dialect) (s : List Char) : Option (String × String × String) := do
  let r ← keyword? "ALTER TABLE " s
  let (table, r) ← readName? d r
  let r ← keyword? " ADD COLUMN " r
  let (column, r) ← readName? d r
  let r ← keyword? " " r
  some (table, column, String.ofList r)

def readCommand? (d : Dialect) (s : List Char) : Option Command :=
  if s = d.columnsQuery.toList then some .listColumns
  else
    ((readSelect? d s).map .select)
    <|> ((readInsert? d s).map fun p => .insert p.1 p.2)
    <|> ((readCreateTable? d s).map fun p => .createTable p.1 p.2)
    <|> ((readAddColumn? d s).map fun p => .addColumn p.1 p.2.1 p.2.2)
    <|> ((keyword? "SELECT " s).bind (readEcho? d (s.length + 1)) |>.map .echo)

/-- The command with the given text in a dialect. -/
def Command.read? (d : Dialect) (sql : String) : Option Command := readCommand? d sql.toList

example : Command.read? .sqlite ((Command.select ⟨"a\x60b", some (.not (.and (.atom (.isIn "x" 2))
      (.or (.atom (.constant false)) (.atom (.compare "y" .gte))))),
      [("x", .ascending), ("y", .descending)], some (-1), some 5⟩).text .sqlite) =
    some (.select ⟨"a\x60b", some (.not (.and (.atom (.isIn "x" 2))
      (.or (.atom (.constant false)) (.atom (.compare "y" .gte))))),
      [("x", .ascending), ("y", .descending)], some (-1), some 5⟩) := by decide +kernel

end SqlAdapter.Sql
