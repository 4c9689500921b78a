import Mathlib.Data.List.SplitBy
import SqlAdapter.Sql.Text

/-!
# Scanning a statement

A scan goes through a text from left to right, as a database does to tell names from the rest: a quote
character opens a region, two of them inside stay inside as one, and a single one closes it. The text
of every command is scanned into exactly the names that the command speaks of, all regions closed, and
outside them into words and signs of a fixed vocabulary with one question mark for each value.

`Renders` says this of a part of a text, whatever follows that part; parts are put together around a
literal that keeps their words apart.
-/

set_option autoImplicit false

namespace SqlAdapter.Sql

/-- Scans a text, outside the regions or inside one whose content so far is given. Gives the contents
of the regions and the characters outside them; a region that is never closed gives nothing. -/
def scan (q : Char) : Option (List Char) → List Char → Option (List (List Char) × List Char)
  | none, [] => some ([], [])
  | some _, [] => none
  | none, c :: r =>
    if c = q then scan q (some []) r else (scan q none r).map fun p => (p.1, c :: p.2)
  | some n, [c] => if c = q then some ([n], []) else none
  | some n, c :: d :: r =>
    if c = q then
      if d = q then scan q (some (n ++ [q])) r
      else (scan q none (d :: r)).map fun p => (n :: p.1, p.2)
    else scan q (some (n ++ [c])) (d :: r)

/-- The letters of words; every other character is a sign on its own. -/
def isLetter (c : Char) : Bool := c.isAlphanum || c = '_'

/-- The words and signs of a text. -/
def words (s : List Char) : List (List Char) := s.splitBy fun a b => isLetter a && isLetter b

/-- The words of the statements: keywords, and what the listings of columns are made of. -/
def keywords : List String :=
  ["SELECT", "FROM", "WHERE", "ORDER", "BY", "ASC", "DESC", "LIMIT", "OFFSET", "AND", "OR", "NOT",
   "IS", "NULL", "IN", "LIKE", "BETWEEN", "INSERT", "INTO", "VALUES", "CREATE", "TABLE", "IF",
   "EXISTS", "PRIMARY", "KEY", "ALTER", "ADD", "COLUMN", "AS", "column_name", "name", "data_type",
   "type", "information_schema", "columns", "table_schema", "CURRENT_SCHEMA", "table_name",
   "ordinal_position", "COLUMN_NAME", "COLUMN_TYPE", "COLUMNS", "TABLE_SCHEMA", "DATABASE",
   "TABLE_NAME", "ORDINAL_POSITION", "pragma_table_info", "cid"]

def typeWords : List String := ["VARCHAR", "TEXT", "TINYINT", "INT", "DATE", "DATETIME"]

def signs : List Char := [' ', ',', '(', ')', '*', '=', '!', '<', '>', '-', '.', '?']

/-- A word of the vocabulary: a sign, a number, a word of a type or a keyword. -/
def IsFixedWord (w : List Char) : Prop :=
  (∃ c ∈ signs, w = [c]) ∨ (∀ c ∈ w, c.isDigit = true) ∨ String.ofList w ∈ typeWords ∨
    String.ofList w ∈ keywords

/-- A test that goes through the text and the vocabulary, not through all characters. -/
def isFixedWord (w : List Char) : Bool :=
  signs.any (fun c => w = [c]) || w.all Char.isDigit || decide (String.ofList w ∈ typeWords) ||
    decide (String.ofList w ∈ keywords)

theorem isFixedWord_iff {w : List Char} : isFixedWord w = true ↔ IsFixedWord w := by
  simp [isFixedWord, IsFixedWord, or_assoc]

instance (w : List Char) : Decidable (IsFixedWord w) := decidable_of_iff _ isFixedWord_iff

/-- A text all of whose words are of the vocabulary. -/
def IsFixed (s : List Char) : Prop := ∀ w ∈ words s, IsFixedWord w

instance (s : List Char) : Decidable (IsFixed s) :=
  decidable_of_iff ((words s).all isFixedWord = true)
    (by simp only [List.all_eq_true, isFixedWord_iff, IsFixed])

variable {q : Char} {a b r s : List Char}

theorem scan_append (h : q ∉ a) :
    scan q none (a ++ r) = (scan q none r).map fun p => (p.1, a ++ p.2) := by
  induction a with
  | nil => simp
  | cons c a ih =>
    obtain ⟨hc, ha⟩ := not_or.1 (mt List.mem_cons.2 h)
    simp [scan, Ne.symm hc, ih ha, Function.comp_def]

theorem scan_double {n : List Char} (h : r.head? ≠ some q) :
    scan q (some n) (Text.Quoted.double q s ++ q :: r) =
      (scan q none r).map fun p => ((n ++ s) :: p.1, p.2) := by
  induction s generalizing n with
  | nil =>
    cases r with
    | nil => simp [Text.Quoted.double, scan]
    | cons c r =>
      have hc : c ≠ q := by simpa using h
      simp [Text.Quoted.double, scan, hc]
  | cons c s ih =>
    by_cases hc : c = q
    · simp [Text.Quoted.double, hc, scan, ih]
    · obtain ⟨e, u, hu⟩ : ∃ e u, Text.Quoted.double q s ++ q :: r = e :: u :=
        List.exists_cons_of_ne_nil (by simp)
      have hi := ih (n := n ++ [c])
      rw [hu] at hi
      simp [Text.Quoted.double, hc, scan, hu, hi]

/-- A quoted name is one region, and the region holds the name. -/
theorem scan_encode (h : r.head? ≠ some q) :
    scan q none (Text.Quoted.encode q s ++ r) = (scan q none r).map fun p => (s :: p.1, p.2) := by
  simp [Text.Quoted.encode, scan, scan_double h]

theorem isFixed_nil : IsFixed [] := by decide

/-- Two texts that a sign keeps apart have their words side by side. -/
theorem IsFixed.append (ha : IsFixed a) (hb : IsFixed b)
    (h : (∀ c ∈ a.getLast?, isLetter c = false) ∨ ∀ c ∈ b.head?, isLetter c = false) :
    IsFixed (a ++ b) := by
  have hw : words (a ++ b) = words a ++ words b := by
    apply List.splitBy_append
    intro x hx y hy
    rcases h with h | h
    · simp [h x hx]
    · simp [h y hy]
  intro w hmem
  rw [hw] at hmem
  rcases List.mem_append.1 hmem with hmem | hmem
  · exact ha w hmem
  · exact hb w hmem

/-! ## Parts of a statement -/

/-- A text of fixed words without names, with `k` question marks. -/
structure IsLiteral (b : List Char) (k : Nat) : Prop where
  ne_nil : b ≠ []
  plain : '"' ∉ b ∧ '\x60' ∉ b
  fixed : IsFixed b
  marks : b.count '?' = k

instance (b : List Char) (k : Nat) : Decidable (IsLiteral b k) :=
  decidable_of_iff (b ≠ [] ∧ ('"' ∉ b ∧ '\x60' ∉ b) ∧ IsFixed b ∧ b.count '?' = k)
    ⟨fun ⟨h₁, h₂, h₃, h₄⟩ => ⟨h₁, h₂, h₃, h₄⟩, fun ⟨h₁, h₂, h₃, h₄⟩ => ⟨h₁, h₂, h₃, h₄⟩⟩

/-- The texts around the names of a statement, each with its number of question marks. -/
def connectives : List (String × Nat) :=
  [("?", 1), (", ", 0), ("-", 0), ("(", 0), (")", 0), ("NOT (", 0), (") AND (", 0), (") OR (", 0),
   (" IN (", 0), (" NOT IN (", 0), ("1 = 1", 0), ("1 = 0", 0), (" ASC", 0), (" DESC", 0),
   ("SELECT * FROM ", 0), (" WHERE ", 0), (" ORDER BY ", 0), (" LIMIT ", 0), (" OFFSET ", 0),
   ("INSERT INTO ", 0), (" (", 0), (") VALUES (", 0), ("CREATE TABLE IF NOT EXISTS ", 0),
   (" VARCHAR(24) PRIMARY KEY)", 0), ("ALTER TABLE ", 0), (" ADD COLUMN ", 0), (" TEXT", 0),
   (" TINYINT(1)", 0), (" INT", 0), (" DATE", 0), (" DATETIME", 0), ("SELECT ", 0), ("? AS ", 1)]

theorem isLiteral_connective {u : String} {k : Nat} (h : (u, k) ∈ connectives) :
    IsLiteral u.toList k := by
  have hall : ∀ p ∈ connectives, IsLiteral p.1.toList p.2 := by decide +kernel
  exact hall _ h

/-- A text that starts with a sign. -/
def StartsOff (b : List Char) : Prop := ∀ c ∈ b.head?, isLetter c = false

def EndsOff (b : List Char) : Prop := ∀ c ∈ b.getLast?, isLetter c = false

theorem all_not_isLetter_iff {o : Option Char} :
    (o.all fun c => !isLetter c) = true ↔ ∀ c ∈ o, isLetter c = false := by
  cases o <;> simp

instance (b : List Char) : Decidable (StartsOff b) := decidable_of_iff _ all_not_isLetter_iff

instance (b : List Char) : Decidable (EndsOff b) := decidable_of_iff _ all_not_isLetter_iff

variable {d : Dialect} {t t' : List Char} {ns ns' : List String} {k n n' : Nat}

theorem IsLiteral.quote_notMem (h : IsLiteral b k) : d.quote ∉ b := by
  cases d with
  | generic => exact h.plain.1
  | mysql | sqlite => exact h.plain.2

theorem IsLiteral.head?_ne (h : IsLiteral b k) : (b ++ r).head? ≠ some d.quote := by
  obtain ⟨c, b, rfl⟩ := List.exists_cons_of_ne_nil h.ne_nil
  simpa using Ne.symm (not_or.1 (mt List.mem_cons.2 h.quote_notMem)).1

/-- In front of any text that does not begin with a quote, the part has the given names for its regions
and, outside them, fixed words with the given number of question marks. -/
def Renders (d : Dialect) (t : List Char) (names : List String) (marks : Nat) : Prop :=
  ∃ o, IsFixed o ∧ o.count '?' = marks ∧ ∀ r : List Char, r.head? ≠ some d.quote →
    scan d.quote none (t ++ r) =
      (scan d.quote none r).map fun p => (names.map String.toList ++ p.1, o ++ p.2)

theorem renders_nil : Renders d [] [] 0 := ⟨[], isFixed_nil, rfl, fun r _ => by simp⟩

theorem renders_quoted (d : Dialect) (name : String) : Renders d (quoted d name) [name] 0 :=
  ⟨[], isFixed_nil, rfl, fun _ hr => by simp [quoted, scan_encode hr]⟩

theorem IsLiteral.renders (h : IsLiteral b k) : Renders d b [] k :=
  ⟨b, h.fixed, h.marks, fun _ _ => by simp [scan_append h.quote_notMem]⟩

theorem Renders.prepend (ht : Renders d t ns n) (hb : IsLiteral b k) (he : EndsOff b) :
    Renders d (b ++ t) ns (n + k) := by
  obtain ⟨o, ho, hn, h⟩ := ht
  refine ⟨b ++ o, hb.fixed.append ho (.inl he), ?_, ?_⟩
  · rw [List.count_append, hb.marks, hn, Nat.add_comm]
  · intro r hr
    rw [List.append_assoc, scan_append hb.quote_notMem, h r hr]
    simp [Function.comp_def]

theorem Renders.append (ht : Renders d t ns n) (hb : IsLiteral b k) (hs : StartsOff b) :
    Renders d (t ++ b) ns (n + k) := by
  obtain ⟨o, ho, hn, h⟩ := ht
  refine ⟨o ++ b, ho.append hb.fixed (.inr hs), ?_, ?_⟩
  · rw [List.count_append, hb.marks, hn]
  · intro r hr
    rw [List.append_assoc, h _ hb.head?_ne, scan_append hb.quote_notMem]
    simp [Function.comp_def]

theorem Renders.join (ht : Renders d t ns n) (hb : IsLiteral b 0) (hs : StartsOff b)
    (he : EndsOff b) (ht' : Renders d t' ns' n') :
    Renders d (t ++ (b ++ t')) (ns ++ ns') (n + n') := by
  obtain ⟨o, ho, hn, h⟩ := ht
  obtain ⟨o', ho', hn', h'⟩ := ht'
  refine ⟨o ++ b ++ o', (ho.append hb.fixed (.inr hs)).append ho' ?_, ?_, ?_⟩
  · obtain ⟨c, b', rfl⟩ := List.exists_cons_of_ne_nil hb.ne_nil
    left
    intro x hx
    exact he x (by simpa using hx)
  · simp only [List.count_append, hb.marks, hn, hn', Nat.add_zero]
  · intro r hr
    rw [List.append_assoc, List.append_assoc, h _ hb.head?_ne, scan_append hb.quote_notMem,
      h' r hr]
    simp [Function.comp_def]

theorem renders_commaSeparated {α : Type} {write : α → List Char} {names : α → List String}
    {marks : Nat} {l : List α} (h : ∀ x ∈ l, Renders d (write x) (names x) marks) :
    Renders d (commaSeparated (l.map write)) (l.flatMap names) (l.length * marks) := by
  have hcomma : IsLiteral ", ".toList 0 := isLiteral_connective (by simp [connectives])
  induction l with
  | nil => simpa [commaSeparated] using renders_nil (d := d)
  | cons x l ih =>
    have hx := h x List.mem_cons_self
    cases l with
    | nil => simpa [commaSeparated] using hx
    | cons y l =>
      have hl := ih fun z hz => h z (List.mem_cons_of_mem _ hz)
      have hj := hx.join hcomma (by decide) (by decide) hl
      rw [List.length_cons, Nat.succ_mul, Nat.add_comm, List.flatMap_cons]
      exact hj

end SqlAdapter.Sql
