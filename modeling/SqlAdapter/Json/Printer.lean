import SqlAdapter.Binary64.Shortest
import SqlAdapter.Json.Basic
import SqlAdapter.Text.Numeral

/-!
# The text of a document

The compact text has no white space. A string is escaped where it must be: the two-character escapes
for quote, backslash, backspace, form feed, line feed, carriage return and tab, and four hexadecimal
digits for the other control characters. A float is written with the fewest digits that read back,
positionally from 1e-5 up to 1e16 and always with a fraction, beyond that with an exponent.
`pretty` puts every item and member on a line of its own.
-/

set_option autoImplicit false

namespace SqlAdapter

namespace Json

/-- A decimal laid out positionally, where `point` digits stand before the point. -/
def positional (ds : List Char) (point : Int) : List Char :=
  if point ≤ 0 then '0' :: '.' :: (List.replicate (-point).toNat '0' ++ ds)
  else
    let n := point.toNat
    if ds.length ≤ n then ds ++ List.replicate (n - ds.length) '0' ++ ['.', '0']
    else ds.take n ++ '.' :: ds.drop n

/-- A decimal laid out with one digit before the point and a signed exponent. -/
def scientific (ds : List Char) (exponent : Int) : List Char :=
  let mark : List Char := if exponent < 0 then ['e', '-'] else ['e', '+']
  let tail := match ds.drop 1 with
    | [] => []
    | rest => '.' :: rest
  ds.take 1 ++ tail ++ mark ++ Text.natural exponent.natAbs

def decimalChars (d : Decimal) : List Char :=
  let ds := Text.natural d.digits
  let point : Int := ds.length + d.scale
  if d.digits = 0 then ['0', '.', '0']
  else if -5 < point ∧ point ≤ 16 then positional ds point
  else scientific ds (point - 1)

/-- The text of a finite float. -/
def floatChars (x : Binary64) : List Char :=
  if x.isNegative then '-' :: decimalChars x.shortest else decimalChars x.shortest

def numberChars : Number → List Char
  | .integer n => Text.integer n.val
  | .float x => floatChars x

def hexDigit (n : Nat) : Char := Nat.digitChar n

def escape (c : Char) : List Char :=
  if c = '"' then ['\\', '"']
  else if c = '\\' then ['\\', '\\']
  else if c = '\x08' then ['\\', 'b']
  else if c = '\x0c' then ['\\', 'f']
  else if c = '\n' then ['\\', 'n']
  else if c = '\r' then ['\\', 'r']
  else if c = '\t' then ['\\', 't']
  else if c.toNat < 0x20 then
    ['\\', 'u', '0', '0', hexDigit (c.toNat / 16), hexDigit (c.toNat % 16)]
  else [c]

def stringChars (s : String) : List Char := '"' :: (s.toList.flatMap escape ++ ['"'])

mutual

def chars : Json → List Char
  | .null => ['n', 'u', 'l', 'l']
  | .bool true => ['t', 'r', 'u', 'e']
  | .bool false => ['f', 'a', 'l', 's', 'e']
  | .number n => numberChars n
  | .string s => stringChars s
  | .array [] => ['[', ']']
  | .array (x :: xs) => '[' :: (x.chars ++ itemsChars xs)
  | .object [] => ['\x7b', '\x7d']
  | .object ((k, x) :: ms) => '\x7b' :: (stringChars k ++ ':' :: (x.chars ++ membersChars ms))

/-- The items after the first, with the closing bracket. -/
def itemsChars : List Json → List Char
  | [] => [']']
  | x :: xs => ',' :: (x.chars ++ itemsChars xs)

/-- The members after the first, with the closing brace. -/
def membersChars : List (String × Json) → List Char
  | [] => ['\x7d']
  | (k, x) :: ms => ',' :: (stringChars k ++ ':' :: (x.chars ++ membersChars ms))

end

def compact (j : Json) : String := String.ofList j.chars

/-- A line break and an indentation of two blanks for each level. -/
def newLine (level : Nat) : List Char := '\n' :: List.replicate (2 * level) ' '

mutual

def prettyChars (level : Nat) : Json → List Char
  | .array (x :: xs) =>
    '[' :: (newLine (level + 1) ++ x.prettyChars (level + 1) ++ prettyItems level xs)
  | .object ((k, x) :: ms) =>
    '\x7b' :: (newLine (level + 1) ++ stringChars k ++ ':' :: ' ' :: x.prettyChars (level + 1)
      ++ prettyMembers level ms)
  | .array [] => ['[', ']']
  | .object [] => ['\x7b', '\x7d']
  | .null => chars .null
  | .bool b => chars (.bool b)
  | .number n => numberChars n
  | .string s => stringChars s

def prettyItems (level : Nat) : List Json → List Char
  | [] => newLine level ++ [']']
  | x :: xs => ',' :: (newLine (level + 1) ++ x.prettyChars (level + 1) ++ prettyItems level xs)

def prettyMembers (level : Nat) : List (String × Json) → List Char
  | [] => newLine level ++ ['\x7d']
  | (k, x) :: ms =>
    ',' :: (newLine (level + 1) ++ stringChars k ++ ':' :: ' ' :: x.prettyChars (level + 1)
      ++ prettyMembers level ms)

end

/-- The text with every item and member on a line of its own, indented by two blanks a level. -/
def pretty (j : Json) : String := String.ofList (prettyChars 0 j)

example : floatChars .one = "1.0".toList := by decide +kernel
example : floatChars .negativeZero = "-0.0".toList := by decide +kernel
example : floatChars ⟨0x4341C37937E08000⟩ = "1e+16".toList := by decide +kernel
example : floatChars ⟨0x3EE4F8B588E368F1⟩ = "0.00001".toList := by decide +kernel
example : floatChars ⟨0x3EE4C305A3ADEF92⟩ = "9.9e-6".toList := by decide +kernel
example : floatChars ⟨0x7FEFFFFFFFFFFFFF⟩ = "1.7976931348623157e+308".toList := by decide +kernel
example : floatChars ⟨0x430C6BF526340000⟩ = "1000000000000000.0".toList := by decide +kernel

end Json

end SqlAdapter
