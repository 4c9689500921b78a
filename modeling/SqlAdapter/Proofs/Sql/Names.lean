import SqlAdapter.Proofs.Sql.Reading
import SqlAdapter.Proofs.Sql.Scan

/-!
# The names in a statement

The names that a command speaks of are the regions of its text, and it has a question mark for each of
its values. Only the type of a new column is text of the caller's choice, so it must be a column type.
-/

set_option autoImplicit false

namespace SqlAdapter.Sql

/-- The names that a command speaks of, in the order of its text. -/
def Command.names : Command → List String
  | createTable table key => [table, key]
  | addColumn table column _ => [table, column]
  | listColumns => []
  | insert table columns => table :: columns
  | select s => s.table :: (s.condition.map columnsOf).getD [] ++ s.order.map Prod.fst
  | echo names => names

/-- How many values a command takes. -/
def Command.arity : Command → Nat
  | createTable .. | addColumn .. => 0
  | listColumns => 1
  | insert _ columns => columns.length
  | select s => (s.condition.map arityOf).getD 0
  | echo names => names.length

/-- A new column has the type of a datatype. -/
def Command.IsTyped : Command → Prop
  | addColumn _ _ type => ∃ t : Datatype, type = t.columnType
  | _ => True

variable {d : Dialect}

theorem isLiteral_close : IsLiteral ")".toList 0 := isLiteral_connective (by simp [connectives])

theorem isLiteral_blank_cons {u : String} {k : Nat} :
    IsLiteral (' ' :: u.toList) k ↔ IsLiteral (" " ++ u).toList k := by
  rw [String.toList_append]
  exact Iff.rfl

theorem startsOff_blank (l : List Char) : StartsOff (' ' :: l) := by
  intro c hc
  obtain rfl : ' ' = c := by simpa using hc
  decide

theorem renders_marks (n : Nat) : Renders d (marks n) [] n := by
  have hm : IsLiteral "?".toList 1 := isLiteral_connective (by simp [connectives])
  have h : Renders d (commaSeparated ((List.replicate n ()).map fun _ => ['?'])) _ _ :=
    renders_commaSeparated fun _ _ => hm.renders
  rw [List.flatMap_eq_nil_iff.2 fun _ _ => rfl] at h
  simpa [marks] using h

theorem isLiteral_rest {t : Test} {c : String} (ht : t ∈ fixedTests c) :
    IsLiteral t.rest t.arity ∧ StartsOff t.rest := by
  have h : ∀ p ∈ (fixedTests c).map fun t => (t.rest, t.arity),
      IsLiteral p.1 p.2 ∧ StartsOff p.1 := by
    show ∀ p ∈ (fixedTests "").map fun t => (t.rest, t.arity), _
    decide +kernel
  exact h _ (List.mem_map_of_mem ht)

theorem renders_fixed {t : Test} {c : String} (ht : t ∈ fixedTests c) :
    Renders d (t.chars d) t.column?.toList t.arity := by
  obtain ⟨hl, hs⟩ := isLiteral_rest ht
  simp only [Test.chars, (rest_of_mem_fixedTests ht).1]
  simpa using (renders_quoted d c).append hl hs

theorem renders_list {k : List Char} (hk : IsLiteral k 0) (hs : StartsOff k) (he : EndsOff k)
    (c : String) (n : Nat) : Renders d (quoted d c ++ (k ++ (marks n ++ ")".toList))) [c] n := by
  have h := (renders_quoted d c).join hk hs he ((renders_marks n).append isLiteral_close (by decide))
  rw [Nat.zero_add] at h
  exact h

theorem renders_test (t : Test) : Renders d (t.chars d) t.column?.toList t.arity := by
  cases t with
  | constant b =>
    have h : IsLiteral (Test.constant b).rest 0 := by
      cases b <;> exact isLiteral_connective (by simp [connectives])
    exact h.renders
  | isIn c n =>
    have h := chars_isIn (d := d) (r := []) c n
    rw [List.append_nil] at h
    have hin : IsLiteral " IN (".toList 0 := isLiteral_connective (by simp [connectives])
    rw [h]
    exact renders_list hin (by decide) (by decide) c n
  | notIn c n =>
    have h := chars_notIn (d := d) (r := []) c n
    rw [List.append_nil] at h
    have hin : IsLiteral " NOT IN (".toList 0 := isLiteral_connective (by simp [connectives])
    rw [h]
    exact renders_list hin (by decide) (by decide) c n
  | compare c op => exact renders_fixed (c := c) (by cases op <;> simp [fixedTests])
  | isNull c | isNotNull c | like c | between c =>
    exact renders_fixed (c := c) (by simp [fixedTests])

theorem renders_condition (c : Condition) :
    Renders d (conditionChars d c) (columnsOf c) (arityOf c) := by
  have hopen : IsLiteral "(".toList 0 := isLiteral_connective (by simp [connectives])
  induction c with
  | atom t =>
    have hn : columnsOf (.atom t) = t.column?.toList := by
      cases h : t.column? <;> simp [columnsOf, Formula.atoms, h]
    rw [hn]
    exact renders_test t
  | and l r hl hr =>
    have hand : IsLiteral ") AND (".toList 0 := isLiteral_connective (by simp [connectives])
    have hn : columnsOf (.and l r) = columnsOf l ++ columnsOf r := by
      simp [columnsOf, Formula.atoms]
    rw [conditionChars_and, hn]
    exact (hl.join hand (by decide) (by decide) (hr.append isLiteral_close (by decide))).prepend hopen
      (by decide)
  | or l r hl hr =>
    have hor : IsLiteral ") OR (".toList 0 := isLiteral_connective (by simp [connectives])
    have hn : columnsOf (.or l r) = columnsOf l ++ columnsOf r := by
      simp [columnsOf, Formula.atoms]
    rw [conditionChars_or, hn]
    exact (hl.join hor (by decide) (by decide) (hr.append isLiteral_close (by decide))).prepend hopen
      (by decide)
  | not f hf =>
    have hnot : IsLiteral "NOT (".toList 0 := isLiteral_connective (by simp [connectives])
    rw [conditionChars_not]
    exact (hf.append isLiteral_close (by decide)).prepend hnot (by decide)

theorem Renders.part {α : Type} {t : List Char} {ns : List String} {n : Nat} {k : String}
    {write : α → List Char} {names : α → List String} {marks : α → Nat} {o : Option α}
    (ht : Renders d t ns n) (hk : IsLiteral k.toList 0) (hs : StartsOff k.toList)
    (he : EndsOff k.toList) (h : ∀ a ∈ o, Renders d (write a) (names a) (marks a)) :
    Renders d (t ++ part k (o.map write)) (ns ++ (o.map names).getD [])
      (n + (o.map marks).getD 0) := by
  cases o with
  | none => simpa [Sql.part] using ht
  | some a => exact ht.join hk hs he (h a rfl)

theorem renders_order (o : List (String × Direction)) :
    Renders d (orderChars d o) (o.map Prod.fst) 0 := by
  have hdirection : ∀ x : Direction, IsLiteral (' ' :: x.keyword.toList) 0 := by
    intro x
    rw [isLiteral_blank_cons]
    cases x <;> exact isLiteral_connective (by simp [connectives, Direction.keyword])
  have h := renders_commaSeparated (l := o) fun p _ =>
    (renders_quoted d p.1).append (hdirection p.2) (startsOff_blank _)
  rwa [← List.map_eq_flatMap] at h

theorem isFixed_natural (n : Nat) : IsFixed (Text.natural n) := by
  have hd : ∀ c ∈ Text.natural n, c.isDigit = true := fun c => Text.isDigit_of_mem_natural
  have hl : ∀ c ∈ Text.natural n, isLetter c = true := by
    intro c hc
    simp [isLetter, Char.isAlphanum, hd c hc]
  have hchain : (Text.natural n).IsChain fun a b => isLetter a && isLetter b := by
    apply List.Pairwise.isChain
    apply List.pairwise_of_forall_mem_list
    intro a ha b hb
    simp [hl a ha, hl b hb]
  intro w hw
  rw [words, List.splitBy_of_isChain (Text.natural_ne_nil n) hchain, List.mem_singleton] at hw
  rw [hw]
  exact .inr (.inl hd)

theorem isLiteral_natural (n : Nat) : IsLiteral (Text.natural n) 0 := by
  have hne : ∀ c : Char, c.isDigit = false → c ∉ Text.natural n := by
    intro c hc hm
    simp [Text.isDigit_of_mem_natural hm] at hc
  exact ⟨Text.natural_ne_nil n, ⟨hne _ (by decide), hne _ (by decide)⟩, isFixed_natural n,
    List.count_eq_zero_of_not_mem (hne _ (by decide))⟩

theorem isLiteral_integer (n : Int) : IsLiteral (Text.integer n) 0 := by
  have hn := isLiteral_natural n.natAbs
  by_cases h : n < 0
  · have ht : Text.integer n = ['-'] ++ Text.natural n.natAbs := by simp [Text.integer, h]
    have hminus : IsLiteral ['-'] 0 := by decide +kernel
    rw [ht]
    have hoff : EndsOff ['-'] := by decide
    refine ⟨by simp, ⟨?_, ?_⟩, hminus.fixed.append hn.fixed (.inl hoff), ?_⟩
    · simpa using hn.plain.1
    · simpa using hn.plain.2
    · rw [List.count_append, hminus.marks, hn.marks]
  · have ht : Text.integer n = Text.natural n.natAbs := by simp [Text.integer, h]
    rwa [ht]

theorem names_order? (s : Select) :
    (s.order?.map fun o => o.map Prod.fst).getD [] = s.order.map Prod.fst := by
  by_cases h : s.order = [] <;> simp [Select.order?, h]

theorem renders_select (s : Select) :
    Renders d (s.chars d) (Command.select s).names (Command.select s).arity := by
  have hselect : IsLiteral "SELECT * FROM ".toList 0 := isLiteral_connective (by simp [connectives])
  have hwhere : IsLiteral " WHERE ".toList 0 := isLiteral_connective (by simp [connectives])
  have horderBy : IsLiteral " ORDER BY ".toList 0 := isLiteral_connective (by simp [connectives])
  have hlimit : IsLiteral " LIMIT ".toList 0 := isLiteral_connective (by simp [connectives])
  have hoffset : IsLiteral " OFFSET ".toList 0 := isLiteral_connective (by simp [connectives])
  have h₁ := (renders_quoted d s.table).prepend hselect (by decide)
  have h₂ := h₁.part (o := s.condition) hwhere (by decide) (by decide)
    fun c _ => renders_condition c
  have h₃ := h₂.part (o := s.order?) horderBy (by decide) (by decide) fun o _ => renders_order o
  have h₄ := h₃.part (o := s.limit) hlimit (by decide) (by decide)
    fun n _ => (isLiteral_integer n).renders
  have h₅ := h₄.part (o := s.offset) hoffset (by decide) (by decide)
    fun n _ => (isLiteral_natural n).renders
  -- a page has neither names nor values
  have hnames : ∀ {α : Type} (o : Option α), (o.map fun _ => ([] : List String)).getD [] = [] := by
    intro α o
    cases o <;> rfl
  have hmarks : ∀ {α : Type} (o : Option α), (o.map fun _ => 0).getD 0 = 0 := by
    intro α o
    cases o <;> rfl
  simp only [hnames, hmarks, names_order?, List.append_nil, Nat.add_zero, Nat.zero_add,
    List.append_assoc] at h₅
  rw [Select.chars_eq, List.append_nil]
  exact h₅

theorem renders_insert (table : String) (columns : List String) :
    Renders d ((Command.insert table columns).chars d) (table :: columns) columns.length := by
  have hinto : IsLiteral "INSERT INTO ".toList 0 := isLiteral_connective (by simp [connectives])
  have hopen : IsLiteral " (".toList 0 := isLiteral_connective (by simp [connectives])
  have hvalues : IsLiteral ") VALUES (".toList 0 := isLiteral_connective (by simp [connectives])
  have hcolumns := renders_commaSeparated (d := d) (l := columns) fun c _ => renders_quoted d c
  rw [← List.map_eq_flatMap, List.map_id'] at hcolumns
  have hmarks := (renders_marks (d := d) columns.length).append isLiteral_close (by decide)
  have hlists := hcolumns.join hvalues (by decide) (by decide) hmarks
  have hall := ((renders_quoted d table).join hopen (by decide) (by decide) hlists).prepend hinto
    (by decide)
  have ht : (Command.insert table columns).chars d = "INSERT INTO ".toList ++ (quoted d table ++
      (" (".toList ++ (commaSeparated (columns.map (quoted d)) ++ (") VALUES (".toList ++
        (marks columns.length ++ ")".toList))))) := by
    show "INSERT INTO ".toList ++ quoted d table ++ " (".toList ++
      commaSeparated (columns.map (quoted d)) ++ ") VALUES (".toList ++ marks columns.length ++
        ")".toList = _
    simp only [List.append_assoc]
  rw [ht]
  simpa using hall

theorem renders_createTable (table key : String) :
    Renders d ((Command.createTable table key).chars d) [table, key] 0 := by
  have hcreate : IsLiteral "CREATE TABLE IF NOT EXISTS ".toList 0 :=
    isLiteral_connective (by simp [connectives])
  have hopen : IsLiteral " (".toList 0 := isLiteral_connective (by simp [connectives])
  have hkey : IsLiteral (" " ++ d.keyType ++ " PRIMARY KEY)").toList 0 :=
    isLiteral_connective (by simp [connectives, Dialect.keyType])
  have hoff : StartsOff (" " ++ d.keyType ++ " PRIMARY KEY)").toList := by
    rw [String.toList_append, String.toList_append]
    exact startsOff_blank _
  have h := ((renders_quoted d table).join hopen (by decide) (by decide)
    ((renders_quoted d key).append hkey hoff)).prepend hcreate (by decide)
  rw [chars_createTable, List.append_nil]
  exact h

theorem renders_addColumn (table column : String) (t : Datatype) :
    Renders d ((Command.addColumn table column t.columnType).chars d) [table, column] 0 := by
  have halter : IsLiteral "ALTER TABLE ".toList 0 := isLiteral_connective (by simp [connectives])
  have hadd : IsLiteral " ADD COLUMN ".toList 0 := isLiteral_connective (by simp [connectives])
  have htype : IsLiteral (' ' :: t.columnType.toList) 0 := by
    rw [isLiteral_blank_cons]
    cases t <;> exact isLiteral_connective (by simp [connectives, Datatype.columnType])
  have h := ((renders_quoted d table).join hadd (by decide) (by decide)
    ((renders_quoted d column).append htype (startsOff_blank _))).prepend halter (by decide)
  rw [chars_addColumn]
  exact h

theorem renders_echo (names : List String) :
    Renders d ((Command.echo names).chars d) names names.length := by
  have hselect : IsLiteral "SELECT ".toList 0 := isLiteral_connective (by simp [connectives])
  have has : IsLiteral "? AS ".toList 1 := isLiteral_connective (by simp [connectives])
  have h := (renders_commaSeparated (l := names) fun n _ =>
    (renders_quoted d n).prepend has (by decide)).prepend hselect (by decide)
  rw [← List.map_eq_flatMap, List.map_id', Nat.zero_add, Nat.mul_one] at h
  exact h

theorem isLiteral_toList {u : String} {l : List Char} {k : Nat} (hu : String.ofList l = u)
    (h : IsLiteral l k) : IsLiteral u.toList k := by
  rw [← hu, String.toList_ofList]
  exact h

theorem isLiteral_append {s t : String} {l m : List Char} {k : Nat} (hs : String.ofList l = s)
    (ht : String.ofList m = t) (h : IsLiteral (l ++ m) k) : IsLiteral (s ++ t).toList k := by
  apply isLiteral_toList _ h
  rw [String.ofList_append, hs, ht]

theorem isLiteral_columnsQuery (d : Dialect) : IsLiteral d.columnsQuery.toList 1 := by
  cases d with
  | generic | mysql => exact isLiteral_append rfl rfl (by decide +kernel)
  | sqlite => exact isLiteral_toList rfl (by decide +kernel)

theorem Command.renders {c : Command} (h : c.IsTyped) : Renders d (c.chars d) c.names c.arity := by
  cases c with
  | createTable table key => exact renders_createTable table key
  | addColumn table column type =>
    obtain ⟨t, rfl⟩ := h
    exact renders_addColumn table column t
  | listColumns => exact (isLiteral_columnsQuery d).renders
  | insert table columns => exact renders_insert table columns
  | select s => exact renders_select s
  | echo names => exact renders_echo names

/-- The regions of a command's text are its names; outside of them are fixed words, with one question
mark for each value. -/
theorem Command.scan_text {c : Command} (h : c.IsTyped) :
    ∃ o, scan d.quote none (c.text d).toList = some (c.names.map String.toList, o) ∧ IsFixed o ∧
      o.count '?' = c.arity := by
  obtain ⟨o, ho, hn, hs⟩ := c.renders (d := d) h
  refine ⟨o, ?_, ho, hn⟩
  have := hs [] (by simp)
  simpa [scan] using this

end SqlAdapter.Sql
