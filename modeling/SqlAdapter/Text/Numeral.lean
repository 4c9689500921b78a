/-!
# Decimal numerals

Integers in decimal digits, without leading zeros, and the digits at the front of a text.
-/

set_option autoImplicit false

namespace SqlAdapter.Text

def natural (n : Nat) : List Char := Nat.toDigits 10 n

def integer (n : Int) : List Char :=
  if n < 0 then '-' :: natural n.natAbs else natural n.natAbs

/-- The number that the digits spell. -/
def ofDigits (ds : List Char) : Nat := Nat.ofDigitChars 10 ds 0

/-- The digits at the front of a text, at least one, and what follows them. -/
def splitDigits? (s : List Char) : Option (List Char × List Char) :=
  match s.takeWhile Char.isDigit with
  | [] => none
  | ds => some (ds, s.dropWhile Char.isDigit)

/-- The natural number at the front of a text. -/
def readNatural? (s : List Char) : Option (Nat × List Char) :=
  (splitDigits? s).map fun p => (ofDigits p.1, p.2)

@[simp] theorem ofDigits_natural (n : Nat) : ofDigits (natural n) = n :=
  Nat.ofDigitChars_toDigits (by decide) (by decide)

theorem isDigit_of_mem_natural {n : Nat} {c : Char} (h : c ∈ natural n) : c.isDigit = true :=
  Nat.isDigit_of_mem_toDigits (by decide) (by decide) h

theorem natural_ne_nil (n : Nat) : natural n ≠ [] := by
  unfold natural
  exact Nat.toDigits_ne_nil

theorem splitDigits?_append {ds r : List Char} (hd : ∀ c ∈ ds, c.isDigit = true) (hn : ds ≠ [])
    (hr : ∀ c ∈ r.head?, c.isDigit = false) : splitDigits? (ds ++ r) = some (ds, r) := by
  have ht : (ds ++ r).takeWhile Char.isDigit = ds := by
    rw [List.takeWhile_append_of_pos hd]
    cases r with
    | nil => simp
    | cons c r => simp [hr c (by simp)]
  have hw : (ds ++ r).dropWhile Char.isDigit = r := by
    rw [List.dropWhile_append_of_pos hd]
    cases r with
    | nil => simp
    | cons c r => simp [hr c (by simp)]
  cases ds with
  | nil => exact absurd rfl hn
  | cons c ds => simp only [splitDigits?, ht, hw]

theorem readNatural?_append {n : Nat} {r : List Char} (hr : ∀ c ∈ r.head?, c.isDigit = false) :
    readNatural? (natural n ++ r) = some (n, r) := by
  simp [readNatural?, splitDigits?_append (fun _ => isDigit_of_mem_natural) (natural_ne_nil n) hr]

end SqlAdapter.Text
