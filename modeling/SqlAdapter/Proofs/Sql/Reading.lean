import SqlAdapter.Sql.Reader

/-!
# Reading back what was written

Every part of a command delimits itself: a name by its quotes, a test by its last word, a condition by
its parentheses, an optional part of a selection by the keyword in front of it. So each part is read
back from the front of a text whatever follows it, and a whole command is read back from its text. In
particular two commands of one text are the same.
-/

set_option autoImplicit false

namespace SqlAdapter.Sql

variable {d : Dialect} {p r s : List Char}

/-- Two texts that differ before either of them ends. -/
def Clash (p s : List Char) : Prop := ∃ x ∈ p.zip s, x.1 ≠ x.2

instance (p s : List Char) : Decidable (Clash p s) :=
  inferInstanceAs (Decidable (∃ x ∈ p.zip s, x.1 ≠ x.2))

theorem Clash.cons {a b : Char} (h : Clash (a :: p) (b :: s)) : a ≠ b ∨ Clash p s := by
  obtain ⟨x, hx, hne⟩ := h
  rcases List.mem_cons.1 hx with rfl | hx
  · exact .inl hne
  · exact .inr ⟨x, hx, hne⟩

theorem Clash.after?_eq_none (h : Clash p s) : after? p (s ++ r) = none := by
  induction p generalizing s with
  | nil => simp [Clash] at h
  | cons a p ih =>
    cases s with
    | nil => simp [Clash] at h
    | cons b s =>
      by_cases hab : a = b
      · rcases h.cons with hne | hps
        · exact absurd hab hne
        · simp [after?, hab, ih hps]
      · simp [after?, hab]

theorem keyword?_append (k : String) : keyword? k (k.toList ++ r) = some r := after?_append _ _

theorem keyword?_eq_none {k : String} (h : Clash k.toList s) : keyword? k (s ++ r) = none :=
  h.after?_eq_none

theorem keyword?_quoted {k n : String} (h : Clash k.toList [d.quote]) :
    keyword? k (quoted d n ++ r) = none :=
  keyword?_eq_none (s := [d.quote]) h

theorem head?_blank_append (h : s.head? = some ' ') : (s ++ r).head? ≠ some d.quote := by
  rw [List.head?_append, h]
  cases d <;> simp [Dialect.quote]

theorem readName?_append {n : String} (h : r.head? ≠ some d.quote) :
    readName? d (quoted d n ++ r) = some (n, r) := by
  simp [readName?, quoted, Text.Quoted.read_encode_append h]

theorem readMarks?_append (n : Nat) :
    readMarks? (marks (n + 1) ++ ')' :: r) = some (n + 1, r) := by
  induction n with
  | zero => rfl
  | succ n ih =>
    have h : marks (n + 2) = '?' :: ',' :: ' ' :: marks (n + 1) := rfl
    simp [h, readMarks?, ih]

theorem readCount?_append (n : Nat) : readCount? (marks n ++ ')' :: r) = some (n, r) := by
  match n with
  | 0 => rfl
  | 1 => rfl
  | n + 2 => exact readMarks?_append (n + 1)

/-! ## Tests -/

theorem readTest?_quoted {c : String} (h : s.head? ≠ some d.quote) :
    readTest? d (quoted d c ++ s) =
      match keyword? " IN (" s, keyword? " NOT IN (" s with
      | some r, _ => (readCount? r).map fun p => (.isIn c p.1, p.2)
      | none, some r => (readCount? r).map fun p => (.notIn c p.1, p.2)
      | none, none => (fixedTests c).findSome? fun t => (after? t.rest s).map fun r => (t, r) := by
  have h1 : keyword? "1 = 1" (quoted d c ++ s) = none := keyword?_quoted (by cases d <;> decide)
  have h0 : keyword? "1 = 0" (quoted d c ++ s) = none := keyword?_quoted (by cases d <;> decide)
  simp only [readTest?, h1, h0, readName?_append h]
  rfl

theorem pairwise_fixedTests (c : String) :
    (fixedTests c).Pairwise fun t u => Clash t.rest u.rest := by
  -- the column does not occur in what follows it
  have h : ((fixedTests c).map Test.rest).Pairwise Clash := by
    show ((fixedTests "").map Test.rest).Pairwise Clash
    decide
  exact List.pairwise_map.1 h

theorem findSome?_after {l : List Test} {t : Test} (hl : l.Pairwise fun t u => Clash t.rest u.rest)
    (ht : t ∈ l) :
    l.findSome? (fun u => (after? u.rest (t.rest ++ r)).map fun r => (u, r)) = some (t, r) := by
  induction l with
  | nil => simp at ht
  | cons u l ih =>
    obtain ⟨hu, hl⟩ := List.pairwise_cons.1 hl
    rcases List.mem_cons.1 ht with rfl | ht
    · simp
    · simp [(hu t ht).after?_eq_none, ih hl ht]

theorem rest_of_mem_fixedTests {t : Test} {c : String} (ht : t ∈ fixedTests c) :
    t.column? = some c ∧ t.rest.head? = some ' ' ∧ Clash " IN (".toList t.rest ∧
      Clash " NOT IN (".toList t.rest := by
  have hc : ∀ t ∈ fixedTests c, t.column? = some c := by simp [fixedTests, Test.column?]
  have hr : ∀ u ∈ (fixedTests c).map Test.rest, u.head? = some ' ' ∧ Clash " IN (".toList u ∧
      Clash " NOT IN (".toList u := by
    show ∀ u ∈ (fixedTests "").map Test.rest, _
    decide
  exact ⟨hc t ht, hr _ (List.mem_map_of_mem ht)⟩

theorem readTest?_fixed {t : Test} {c : String} (ht : t ∈ fixedTests c) :
    readTest? d (t.chars d ++ r) = some (t, r) := by
  obtain ⟨hc, hb, hi, hn⟩ := rest_of_mem_fixedTests ht
  simp only [Test.chars, hc, List.append_assoc]
  rw [readTest?_quoted (head?_blank_append hb), keyword?_eq_none hi, keyword?_eq_none hn]
  exact findSome?_after (pairwise_fixedTests c) ht

theorem chars_isIn (c : String) (n : Nat) :
    (Test.isIn c n).chars d ++ r = quoted d c ++ (" IN (".toList ++ (marks n ++ ')' :: r)) := by
  show quoted d c ++ (" IN (".toList ++ marks n ++ [')']) ++ r = _
  rw [List.append_assoc, List.append_assoc, List.append_assoc, List.singleton_append]

theorem chars_notIn (c : String) (n : Nat) :
    (Test.notIn c n).chars d ++ r =
      quoted d c ++ (" NOT IN (".toList ++ (marks n ++ ')' :: r)) := by
  show quoted d c ++ (" NOT IN (".toList ++ marks n ++ [')']) ++ r = _
  rw [List.append_assoc, List.append_assoc, List.append_assoc, List.singleton_append]

theorem readTest?_append (t : Test) : readTest? d (t.chars d ++ r) = some (t, r) := by
  cases t with
  | constant b => cases b <;> rfl
  | isIn c n =>
    rw [chars_isIn, readTest?_quoted (head?_blank_append (by decide)), keyword?_append " IN ("]
    simp [readCount?_append]
  | notIn c n =>
    rw [chars_notIn, readTest?_quoted (head?_blank_append (by decide)),
      keyword?_eq_none (k := " IN (") (by decide), keyword?_append " NOT IN ("]
    simp [readCount?_append]
  | compare c op => exact readTest?_fixed (c := c) (by cases op <;> simp [fixedTests])
  | isNull c | isNotNull c | like c | between c =>
    exact readTest?_fixed (c := c) (by simp [fixedTests])

/-! ## Conditions -/

theorem keyword?_test {k : String} {t : Test} (hq : Clash k.toList [d.quote])
    (h1 : Clash k.toList ['1']) : keyword? k (t.chars d ++ r) = none := by
  cases t with
  | constant b => cases b <;> exact keyword?_eq_none (s := ['1']) h1
  | _ => exact keyword?_eq_none (s := [d.quote]) hq

theorem conditionChars_and (f g : Condition) :
    conditionChars d (.and f g) = "(".toList ++ (conditionChars d f ++ (") AND (".toList ++
      (conditionChars d g ++ ")".toList))) := by
  show "(".toList ++ conditionChars d f ++ ") AND (".toList ++ conditionChars d g ++ ")".toList = _
  simp only [List.append_assoc]

theorem conditionChars_or (f g : Condition) :
    conditionChars d (.or f g) = "(".toList ++ (conditionChars d f ++ (") OR (".toList ++
      (conditionChars d g ++ ")".toList))) := by
  show "(".toList ++ conditionChars d f ++ ") OR (".toList ++ conditionChars d g ++ ")".toList = _
  simp only [List.append_assoc]

theorem conditionChars_not (f : Condition) :
    conditionChars d (.not f) = "NOT (".toList ++ (conditionChars d f ++ ")".toList) := by
  show "NOT (".toList ++ conditionChars d f ++ ")".toList = _
  simp only [List.append_assoc]

theorem readCondition?_append {n : Nat} {c : Condition} (h : (conditionChars d c).length < n) :
    readCondition? d n (conditionChars d c ++ r) = some (c, r) := by
  induction c generalizing n r with
  | atom t =>
    obtain ⟨n, rfl⟩ : ∃ m, n = m + 1 := ⟨n - 1, by omega⟩
    have ht : conditionChars d (.atom t) = t.chars d := rfl
    have hn : keyword? "NOT (" (t.chars d ++ r) = none :=
      keyword?_test (by cases d <;> decide) (by decide)
    have hp : keyword? "(" (t.chars d ++ r) = none :=
      keyword?_test (by cases d <;> decide) (by decide)
    simp only [ht, readCondition?, hn, hp, readTest?_append]
    rfl
  | and f g hf hg =>
    obtain ⟨n, rfl⟩ : ∃ m, n = m + 1 := ⟨n - 1, by omega⟩
    have hl : (conditionChars d f).length < n ∧ (conditionChars d g).length < n := by
      simp only [conditionChars_and, List.length_append, String.length_toList] at h
      have : "(".length = 1 := rfl
      omega
    simp only [conditionChars_and, List.append_assoc]
    rw [readCondition?, keyword?_eq_none (k := "NOT (") (by decide), keyword?_append "("]
    simp only [hf hl.1, Option.bind_eq_bind, Option.bind_some]
    rw [keyword?_append ") AND ("]
    simp only [hg hl.2, Option.bind_some]
    rw [keyword?_append ")"]
    rfl
  | or f g hf hg =>
    obtain ⟨n, rfl⟩ : ∃ m, n = m + 1 := ⟨n - 1, by omega⟩
    have hl : (conditionChars d f).length < n ∧ (conditionChars d g).length < n := by
      simp only [conditionChars_or, List.length_append, String.length_toList] at h
      have : "(".length = 1 := rfl
      omega
    simp only [conditionChars_or, List.append_assoc]
    rw [readCondition?, keyword?_eq_none (k := "NOT (") (by decide), keyword?_append "("]
    simp only [hf hl.1, Option.bind_eq_bind, Option.bind_some]
    rw [keyword?_eq_none (k := ") AND (") (by decide), keyword?_append ") OR ("]
    simp only [hg hl.2, Option.bind_some]
    rw [keyword?_append ")"]
    rfl
  | not f hf =>
    obtain ⟨n, rfl⟩ : ∃ m, n = m + 1 := ⟨n - 1, by omega⟩
    have hl : (conditionChars d f).length < n := by
      simp only [conditionChars_not, List.length_append, String.length_toList] at h
      have : ")".length = 1 := rfl
      omega
    simp only [conditionChars_not, List.append_assoc]
    rw [readCondition?, keyword?_append "NOT ("]
    simp only [hf hl, Option.bind_eq_bind, Option.bind_some]
    rw [keyword?_append ")"]
    rfl

/-! ## Orders and pages -/

theorem readDirection?_append (o : Direction) :
    readDirection? (' ' :: o.keyword.toList ++ r) = some (o, r) := by
  cases o <;> rfl

theorem commaSeparated_cons_cons (a b : List Char) (l : List (List Char)) :
    commaSeparated (a :: b :: l) = a ++ (", ".toList ++ commaSeparated (b :: l)) := rfl

theorem readOrder?_append {n : Nat} {o : List (String × Direction)} (ho : o ≠ [])
    (hr : keyword? ", " r = none) (h : (orderChars d o).length < n) :
    readOrder? d n (orderChars d o ++ r) = some (o, r) := by
  induction o generalizing n with
  | nil => contradiction
  | cons p o ih =>
    obtain ⟨n, rfl⟩ : ∃ m, n = m + 1 := ⟨n - 1, by omega⟩
    have hq : ∀ t : List Char, (' ' :: p.2.keyword.toList ++ t).head? ≠ some d.quote :=
      fun t => head?_blank_append (s := [' ']) rfl
    cases o with
    | nil =>
      have ht : orderChars d [p] = quoted d p.1 ++ ' ' :: p.2.keyword.toList := by
        simp [orderChars, commaSeparated]
      rw [ht, List.append_assoc, readOrder?]
      simp only [readName?_append (hq r), Option.bind_eq_bind, Option.bind_some,
        readDirection?_append, hr]
    | cons p' o =>
      have ht : orderChars d (p :: p' :: o) ++ r = quoted d p.1 ++ (' ' :: p.2.keyword.toList ++
          (", ".toList ++ (orderChars d (p' :: o) ++ r))) := by
        simp [orderChars, commaSeparated_cons_cons]
      have hl : (orderChars d (p' :: o)).length < n := by
        simp only [orderChars, List.map_cons, commaSeparated_cons_cons, List.length_append,
          List.length_cons] at h ⊢
        omega
      rw [ht, readOrder?]
      simp only [readName?_append (hq _), Option.bind_eq_bind, Option.bind_some,
        readDirection?_append]
      rw [keyword?_append ", "]
      simp only [ih (List.cons_ne_nil _ _) hl, Option.bind_some]

theorem readInt?_append {n : Int} (hr : ∀ c ∈ r.head?, c.isDigit = false) :
    readInt? (Text.integer n ++ r) = some (n, r) := by
  by_cases hn : n < 0
  · have ht : Text.integer n ++ r = "-".toList ++ (Text.natural n.natAbs ++ r) := by
      simp [Text.integer, hn]
    rw [ht, readInt?, keyword?_append "-"]
    simp only [Text.readNatural?_append hr, Option.map_some]
    congr 2
    omega
  · have ht : Text.integer n = Text.natural n.natAbs := by simp [Text.integer, hn]
    have hk : keyword? "-" (Text.natural n.natAbs ++ r) = none := by
      obtain ⟨c, ds, hc⟩ := List.exists_cons_of_ne_nil (Text.natural_ne_nil n.natAbs)
      have hd : c.isDigit = true := Text.isDigit_of_mem_natural (n := n.natAbs) (by simp [hc])
      have hne : '-' ≠ c := by
        rintro rfl
        exact absurd hd (by decide)
      rw [hc]
      exact keyword?_eq_none (s := [c]) ⟨('-', c), by simp, hne⟩
    rw [ht, readInt?, hk]
    simp only [Text.readNatural?_append hr, Option.map_some]
    congr 2
    omega

/-! ## Selections -/

/-- An optional part of a statement, behind its keyword. -/
def part (k : String) : Option (List Char) → List Char
  | none => []
  | some t => k.toList ++ t

/-- Texts that are empty or begin with one of some keywords. -/
def Begins (ks : List String) (s : List Char) : Prop := s = [] ∨ ∃ k ∈ ks, ∃ t, s = k.toList ++ t

theorem begins_nil (ks : List String) : Begins ks [] := .inl rfl

theorem Begins.part {ks : List String} (h : Begins ks s) (k : String) (o : Option (List Char)) :
    Begins (k :: ks) (part k o ++ s) := by
  cases o with
  | none =>
    rcases h with rfl | ⟨k', hk, t, rfl⟩
    · exact .inl rfl
    · exact .inr ⟨k', List.mem_cons_of_mem _ hk, t, rfl⟩
  | some t => exact .inr ⟨k, List.mem_cons_self, t ++ s, by simp [Sql.part]⟩

theorem Begins.keyword?_eq_none {ks : List String} {k : String} (h : Begins ks s)
    (hk : k.toList ≠ []) (hc : ∀ k' ∈ ks, Clash k.toList k'.toList) : keyword? k s = none := by
  rcases h with rfl | ⟨k', hk', t, rfl⟩
  · obtain ⟨c, p, hp⟩ := List.exists_cons_of_ne_nil hk
    simp [keyword?, hp, after?]
  · exact Sql.keyword?_eq_none (hc k' hk')

theorem Begins.eq_blank {ks : List String} {c : Char} (h : Begins ks s)
    (hb : ∀ k ∈ ks, k.toList.head? = some ' ') (hc : c ∈ s.head?) : c = ' ' := by
  rcases h with rfl | ⟨k, hk, t, rfl⟩
  · simp at hc
  · rw [List.head?_append, hb k hk] at hc
    simpa using hc.symm

theorem readPart?_append {α : Type} {k : String} {read : List Char → Option (α × List Char)}
    {w : α → List Char} {o : Option α} (hk : keyword? k s = none)
    (hr : ∀ a ∈ o, read (w a ++ s) = some (a, s)) :
    readPart? k read (part k (o.map w) ++ s) = some (o, s) := by
  cases o with
  | none => simp [part, readPart?, hk]
  | some a =>
    have ht : part k ((some a).map w) ++ s = k.toList ++ (w a ++ s) := by simp [part]
    rw [ht, readPart?, keyword?_append]
    simp [hr a rfl]

/-- The order of a selection, if it has one. -/
def Select.order? (s : Select) : Option (List (String × Direction)) :=
  if s.order = [] then none else some s.order

theorem Select.getD_order? (s : Select) : s.order?.getD [] = s.order := by
  by_cases h : s.order = [] <;> simp [order?, h]

theorem Select.chars_eq (s : Select) :
    s.chars d = "SELECT * FROM ".toList ++ (quoted d s.table ++
      (part " WHERE " (s.condition.map (conditionChars d)) ++
        (part " ORDER BY " (s.order?.map (orderChars d)) ++
          (part " LIMIT " (s.limit.map Text.integer) ++
            (part " OFFSET " (s.offset.map Text.natural) ++ []))))) := by
  obtain ⟨table, condition, order, limit, offset⟩ := s
  delta Select.chars
  cases condition <;> cases order <;> cases limit <;> cases offset <;>
    simp only [Select.order?, part, Option.map_some, Option.map_none, if_true,
      reduceCtorEq, if_false, List.append_nil, List.nil_append, List.append_assoc]

theorem Select.length_condition {s : Select} {c : Condition} (h : c ∈ s.condition) :
    (conditionChars d c).length < (s.chars d).length + 1 := by
  rw [Option.mem_def] at h
  simp only [chars_eq, h, part, Option.map_some, List.length_append]
  omega

theorem Select.length_order {s : Select} {o : List (String × Direction)} (h : o ∈ s.order?) :
    (orderChars d o).length < (s.chars d).length + 1 := by
  rw [Option.mem_def] at h
  simp only [chars_eq, h, part, Option.map_some, List.length_append]
  omega

theorem Select.ne_nil_of_mem_order? {s : Select} {o : List (String × Direction)}
    (h : o ∈ s.order?) : o ≠ [] := by
  rw [Option.mem_def, order?] at h
  split at h
  · simp at h
  · next hne => simpa [← Option.some.inj h] using hne

theorem readSelect?_chars (s : Select) : readSelect? d (s.chars d) = some s := by
  have h₁ := (begins_nil []).part " OFFSET " (s.offset.map Text.natural)
  have h₂ := h₁.part " LIMIT " (s.limit.map Text.integer)
  have h₃ := h₂.part " ORDER BY " (s.order?.map (orderChars d))
  have h₄ := h₃.part " WHERE " (s.condition.map (conditionChars d))
  have hdigit : ∀ c ∈ (part " OFFSET " (s.offset.map Text.natural) ++ []).head?,
      c.isDigit = false := by
    intro c hc
    rw [h₁.eq_blank (by decide) hc]
    decide
  have hquote := fun h => (show d.quote ≠ ' ' by cases d <;> decide) (h₄.eq_blank (by decide) h)
  have hcondition := readPart?_append (w := conditionChars d) (o := s.condition)
    (h₃.keyword?_eq_none (k := " WHERE ") (by decide) (by decide))
    (fun c hc => readCondition?_append (Select.length_condition (d := d) hc))
  have horder := readPart?_append (w := orderChars d) (o := s.order?)
    (h₂.keyword?_eq_none (k := " ORDER BY ") (by decide) (by decide))
    (fun o ho => readOrder?_append (Select.ne_nil_of_mem_order? ho)
      (h₂.keyword?_eq_none (k := ", ") (by decide) (by decide)) (Select.length_order (d := d) ho))
  have hlimit := readPart?_append (w := Text.integer) (o := s.limit)
    (h₁.keyword?_eq_none (k := " LIMIT ") (by decide) (by decide))
    (fun _ _ => readInt?_append hdigit)
  have hoffset := readPart?_append (w := Text.natural) (o := s.offset)
    ((begins_nil []).keyword?_eq_none (k := " OFFSET ") (by decide) (by decide))
    (fun _ _ => Text.readNatural?_append (by simp))
  unfold readSelect?
  generalize (s.chars d).length + 1 = fuel at hcondition horder ⊢
  rw [s.chars_eq, keyword?_append "SELECT * FROM "]
  simp only [Option.bind_eq_bind, Option.bind_some, readName?_append hquote, hcondition, horder,
    hlimit, hoffset, s.getD_order?]

theorem Select.chars_injective {s t : Select} (h : s.chars d = t.chars d) : s = t := by
  have hs := readSelect?_chars (d := d) s
  rw [h, readSelect?_chars t] at hs
  exact (Option.some.inj hs).symm

/-! ## Commands that change a schema -/

theorem readSelect?_eq_none (h : keyword? "SELECT * FROM " s = none) : readSelect? d s = none := by
  simp [readSelect?, h]

theorem readInsert?_eq_none (h : keyword? "INSERT INTO " s = none) : readInsert? d s = none := by
  simp [readInsert?, h]

theorem readCreateTable?_eq_none (h : keyword? "CREATE TABLE IF NOT EXISTS " s = none) :
    readCreateTable? d s = none := by
  simp [readCreateTable?, h]

theorem readAddColumn?_eq_none (h : keyword? "ALTER TABLE " s = none) :
    readAddColumn? d s = none := by
  simp [readAddColumn?, h]

/-- How the listing of columns begins: the first name that it selects is a word. -/
theorem take_columnsQuery : d.columnsQuery.toList.take 8 ∈
    ["SELECT c".toList, "SELECT C".toList, "SELECT n".toList] := by
  cases d <;> decide +kernel

theorem ne_columnsQuery {k : String}
    (h : ∀ p ∈ ["SELECT c".toList, "SELECT C".toList, "SELECT n".toList], Clash k.toList p) :
    k.toList ++ s ≠ d.columnsQuery.toList := by
  intro he
  have hk := keyword?_append (r := s) k
  rw [he, ← List.take_append_drop 8 d.columnsQuery.toList,
    keyword?_eq_none (h _ take_columnsQuery)] at hk
  cases hk

theorem chars_createTable (table key : String) :
    (Command.createTable table key).chars d = "CREATE TABLE IF NOT EXISTS ".toList ++
      (quoted d table ++ (" (".toList ++ (quoted d key ++
        ((" " ++ d.keyType ++ " PRIMARY KEY)").toList ++ [])))) := by
  show "CREATE TABLE IF NOT EXISTS ".toList ++ quoted d table ++ " (".toList ++ quoted d key ++
    " ".toList ++ d.keyType.toList ++ " PRIMARY KEY)".toList = _
  simp only [String.toList_append, List.append_assoc, List.append_nil]

theorem readCommand?_createTable (table key : String) :
    readCommand? d ((Command.createTable table key).chars d) = some (.createTable table key) := by
  have hkey : readCreateTable? d ((Command.createTable table key).chars d) = some (table, key) := by
    rw [chars_createTable, readCreateTable?, keyword?_append "CREATE TABLE IF NOT EXISTS "]
    simp only [Option.bind_eq_bind, Option.bind_some]
    rw [readName?_append (head?_blank_append (by decide))]
    simp only [Option.bind_some]
    rw [keyword?_append " ("]
    simp only [Option.bind_some]
    rw [readName?_append (head?_blank_append (by cases d <;> decide))]
    simp only [Option.bind_some]
    rw [keyword?_append]
    rfl
  rw [chars_createTable] at hkey ⊢
  rw [readCommand?, if_neg (ne_columnsQuery (by decide)),
    readSelect?_eq_none (keyword?_eq_none (by decide)),
    readInsert?_eq_none (keyword?_eq_none (by decide)), hkey]
  rfl

theorem chars_addColumn (table column type : String) :
    (Command.addColumn table column type).chars d = "ALTER TABLE ".toList ++ (quoted d table ++
      (" ADD COLUMN ".toList ++ (quoted d column ++ (" ".toList ++ type.toList)))) := by
  show "ALTER TABLE ".toList ++ quoted d table ++ " ADD COLUMN ".toList ++ quoted d column ++
    " ".toList ++ type.toList = _
  simp only [List.append_assoc]

theorem readCommand?_addColumn (table column type : String) :
    readCommand? d ((Command.addColumn table column type).chars d) =
      some (.addColumn table column type) := by
  have hcolumn : readAddColumn? d ((Command.addColumn table column type).chars d) =
      some (table, column, type) := by
    rw [chars_addColumn, readAddColumn?, keyword?_append "ALTER TABLE "]
    simp only [Option.bind_eq_bind, Option.bind_some]
    rw [readName?_append (head?_blank_append (by decide))]
    simp only [Option.bind_some]
    rw [keyword?_append " ADD COLUMN "]
    simp only [Option.bind_some]
    rw [readName?_append (head?_blank_append (by decide))]
    simp only [Option.bind_some]
    rw [keyword?_append " "]
    simp only [Option.bind_some, String.ofList_toList]
  rw [chars_addColumn] at hcolumn ⊢
  rw [readCommand?, if_neg (ne_columnsQuery (by decide)),
    readSelect?_eq_none (keyword?_eq_none (by decide)),
    readInsert?_eq_none (keyword?_eq_none (by decide)),
    readCreateTable?_eq_none (keyword?_eq_none (by decide)), hcolumn]
  rfl

/-- The commands that bring a table up to a schema. -/
def Command.Configures : Command → Prop
  | createTable .. | addColumn .. | listColumns => True
  | _ => False

theorem Command.read?_text {c : Command} (h : c.Configures) :
    Command.read? d (c.text d) = some c := by
  rw [read?, toList_text]
  cases c with
  | createTable table key => exact readCommand?_createTable table key
  | addColumn table column type => exact readCommand?_addColumn table column type
  | listColumns => exact if_pos rfl
  | _ => exact h.elim

end SqlAdapter.Sql
