import SqlAdapter.Binary64.Decimal
import SqlAdapter.Json.Written
import SqlAdapter.Text.Numeral

/-!
# Reading JSON text

The strict grammar: white space is blank, tab, carriage return and line feed; numbers have no leading
zero and no plus sign; strings hold no control character; nothing follows the document. An integer
literal in the range of the 64-bit integers stays an integer, minus zero and every other literal is a
float, which is computed in double precision and need not be the nearest one. Nested values are read with
a fuel that the length of the text bounds.
-/

set_option autoImplicit false

namespace SqlAdapter

namespace Json

def isGap (c : Char) : Bool := c = ' ' || c = '\n' || c = '\r' || c = '\t'

def skipGap (s : List Char) : List Char := s.dropWhile isGap

/-! ### Strings -/

/-- A character of a string, or a code unit written as an escape. -/
inductive Unit16 where
  | char (c : Char)
  | unit (n : Nat)

def hexValue? (c : Char) : Option Nat :=
  if c.isDigit then some (c.toNat - 48)
  else if 'a' ≤ c ∧ c ≤ 'f' then some (c.toNat - 87)
  else if 'A' ≤ c ∧ c ≤ 'F' then some (c.toNat - 55)
  else none

def codeUnit? (a b c d : Char) : Option Nat := do
  let a ← hexValue? a
  let b ← hexValue? b
  let c ← hexValue? c
  let d ← hexValue? d
  some (4096 * a + 256 * b + 16 * c + d)

/-- The character that a two-character escape stands for. -/
def unescape? (c : Char) : Option Char :=
  match c with
  | '"' => some '"'
  | '\\' => some '\\'
  | '/' => some '/'
  | 'b' => some '\x08'
  | 'f' => some '\x0c'
  | 'n' => some '\n'
  | 'r' => some '\r'
  | 't' => some '\t'
  | _ => none

/-- Reads a string from behind its opening quote to its closing quote. -/
def readUnits : List Char → Option (List Unit16 × List Char)
  | [] => none
  | '"' :: r => some ([], r)
  | '\\' :: 'u' :: a :: b :: c :: d :: r => do
    let n ← codeUnit? a b c d
    let (us, rest) ← readUnits r
    some (.unit n :: us, rest)
  | '\\' :: e :: r => do
    let c ← unescape? e
    let (us, rest) ← readUnits r
    some (.char c :: us, rest)
  | c :: r =>
    if c.toNat < 0x20 ∨ c = '\\' then none
    else do
      let (us, rest) ← readUnits r
      some (.char c :: us, rest)

/-- The characters that the units spell; half of a surrogate pair spells none. -/
def spell? : List Unit16 → Option (List Char)
  | [] => some []
  | .char c :: r => (spell? r).map (c :: ·)
  | .unit hi :: .unit lo :: r =>
    if 0xD800 ≤ hi ∧ hi < 0xDC00 then
      if 0xDC00 ≤ lo ∧ lo < 0xE000 then
        (spell? r).map (Char.ofNat (0x10000 + 0x400 * (hi - 0xD800) + (lo - 0xDC00)) :: ·)
      else none
    else if 0xDC00 ≤ hi ∧ hi < 0xE000 then none
    else (spell? (.unit lo :: r)).map (Char.ofNat hi :: ·)
  | .unit n :: r =>
    if 0xD800 ≤ n ∧ n < 0xE000 then none else (spell? r).map (Char.ofNat n :: ·)

def readString (s : List Char) : Option (Option String × List Char) :=
  (readUnits s).map fun (us, r) => ((spell? us).map String.ofList, r)

/-! ### Numbers -/

/-- A number literal: its integer digits, its fraction digits and its exponent. -/
structure Literal where
  negative : Bool
  whole : List Char
  fraction : Option (List Char)
  exponent : Option Int

/-- Appends digits to a number up to the first with which it would not fit into 64 bits; that one and all
behind it are left over. -/
def gather (n : Nat) : List Char → Nat × List Char
  | [] => (n, [])
  | c :: cs =>
    let m := 10 * n + (c.toNat - 48)
    if m < 18446744073709551616 then gather m cs else (n, c :: cs)

/-- The float of a literal. Digits that the significand has no room for count as zeros. -/
def Literal.float? (l : Literal) : Option Binary64 :=
  let fraction := l.fraction.getD []
  let (n, dropped) := gather 0 l.whole
  let (significand, unread) := gather n fraction
  Binary64.ofParts? l.negative significand
    (dropped.length - (fraction.length - unread.length : Nat) + l.exponent.getD 0)

def Literal.number? (l : Literal) : Option Number :=
  let float := l.float?.map .float
  match l.fraction, l.exponent with
  | none, none =>
    let n : Int := if l.negative then -Text.ofDigits l.whole else Text.ofDigits l.whole
    if l.negative ∧ n = 0 then float
    else
      match Integer.ofInt? n with
      | some n => some (.integer n)
      | none => float
  | _, _ => float

def readFraction : List Char → Option (Option (List Char) × List Char)
  | '.' :: r => (Text.splitDigits? r).map fun (ds, r) => (some ds, r)
  | s => some (none, s)

def readExponent : List Char → Option (Option Int × List Char)
  | e :: r =>
    if e = 'e' ∨ e = 'E' then
      match r with
      | '-' :: r => (Text.splitDigits? r).map fun (ds, r) => (some (-(Text.ofDigits ds : Int)), r)
      | '+' :: r => (Text.splitDigits? r).map fun (ds, r) => (some (Text.ofDigits ds : Int), r)
      | r => (Text.splitDigits? r).map fun (ds, r) => (some (Text.ofDigits ds : Int), r)
    else some (none, e :: r)
  | [] => some (none, [])

def readMagnitude (negative : Bool) (s : List Char) : Option (Literal × List Char) := do
  let (whole, r) ← Text.splitDigits? s
  if whole.head? = some '0' ∧ whole.length ≠ 1 then none
  let (fraction, r) ← readFraction r
  let (exponent, r) ← readExponent r
  some (⟨negative, whole, fraction, exponent⟩, r)

def readLiteral : List Char → Option (Literal × List Char)
  | '-' :: r => readMagnitude true r
  | s => readMagnitude false s

/-! ### Values -/

mutual

def readValue : Nat → List Char → Option (Written × List Char)
  | 0, _ => none
  | n + 1, s =>
    match skipGap s with
    | 'n' :: 'u' :: 'l' :: 'l' :: r => some (.null, r)
    | 't' :: 'r' :: 'u' :: 'e' :: r => some (.bool true, r)
    | 'f' :: 'a' :: 'l' :: 's' :: 'e' :: r => some (.bool false, r)
    | '"' :: r => (readString r).map fun (t, r) => (.string t, r)
    | '[' :: r =>
      match skipGap r with
      | ']' :: r => some (.array [], r)
      | r => (readItems n r).map fun (xs, r) => (.array xs, r)
    | '\x7b' :: r =>
      match skipGap r with
      | '\x7d' :: r => some (.object [], r)
      | r => (readMembers n r).map fun (ms, r) => (.object ms, r)
    | s => (readLiteral s).map fun (l, r) => (.number l.number?, r)

/-- Items up to the closing bracket. -/
def readItems : Nat → List Char → Option (List Written × List Char)
  | 0, _ => none
  | n + 1, s => do
    let (x, r) ← readValue n s
    match skipGap r with
    | ',' :: r =>
      let (xs, r) ← readItems n r
      some (x :: xs, r)
    | ']' :: r => some ([x], r)
    | _ => none

/-- Members up to the closing brace. -/
def readMembers : Nat → List Char → Option (List (Option String × Written) × List Char)
  | 0, _ => none
  | n + 1, s =>
    match skipGap s with
    | '"' :: r => do
      let (k, r) ← readString r
      match skipGap r with
      | ':' :: r =>
        let (x, r) ← readValue n r
        match skipGap r with
        | ',' :: r =>
          let (ms, r) ← readMembers n r
          some ((k, x) :: ms, r)
        | '\x7d' :: r => some ([(k, x)], r)
        | _ => none
      | _ => none
    | _ => none

end

/-- Reads a whole text as one value; nothing but white space may follow it. -/
def readWritten? (s : List Char) : Option Written :=
  match readValue (2 * s.length + 2) s with
  | some (w, r) => if (skipGap r).isEmpty then some w else none
  | none => none

/-- The tree of a text that follows the grammar. -/
def Written.ofString? (s : String) : Option Written := readWritten? s.toList

/-- The document that a text denotes. -/
def ofString? (s : String) : Option Json := (Written.ofString? s).bind Written.document?

end Json

end SqlAdapter
