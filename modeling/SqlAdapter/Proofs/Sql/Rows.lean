import SqlAdapter.Proofs.Sql.Reading

/-!
# Reading back commands about rows

An insertion, a selection and an echo are read back from their texts. The columns of an insertion stand
between parentheses, and it has as many placeholders as columns. An echo has a placeholder for each of
its names; without a name it is no statement.
-/

set_option autoImplicit false

namespace SqlAdapter.Sql

variable {d : Dialect} {r s : List Char}

theorem readNames?_append {n : Nat} {columns : List String} (hc : columns ≠ [])
    (h : (commaSeparated (columns.map (quoted d))).length < n) :
    readNames? d n (commaSeparated (columns.map (quoted d)) ++ ")".toList ++ r) =
      some (columns, r) := by
  induction columns generalizing n with
  | nil => contradiction
  | cons c columns ih =>
    obtain ⟨n, rfl⟩ : ∃ k, n = k + 1 := ⟨n - 1, by omega⟩
    cases columns with
    | nil =>
      have htext : commaSeparated ([c].map (quoted d)) = quoted d c := by simp [commaSeparated]
      have hquote : (")".toList ++ r).head? ≠ some d.quote := by
        cases d <;> simp [Dialect.quote]
      have hcomma : keyword? ", " (")".toList ++ r) = none := keyword?_eq_none (by decide)
      rw [htext, List.append_assoc, readNames?, readName?_append hquote]
      simp only [Option.bind_eq_bind, Option.bind_some]
      rw [hcomma, keyword?_append ")"]
    | cons c' columns =>
      have htext : commaSeparated ((c :: c' :: columns).map (quoted d)) = quoted d c ++
          (", ".toList ++ commaSeparated ((c' :: columns).map (quoted d))) := by
        simp only [List.map_cons, commaSeparated_cons_cons]
      have hquote : (", ".toList ++ (commaSeparated ((c' :: columns).map (quoted d)) ++
          (")".toList ++ r))).head? ≠ some d.quote := by
        cases d <;> simp [Dialect.quote]
      have hlength : (commaSeparated ((c' :: columns).map (quoted d))).length < n := by
        rw [htext] at h
        simp only [List.length_append] at h
        have : ", ".toList.length = 2 := rfl
        omega
      have hrest := ih (List.cons_ne_nil _ _) hlength
      rw [List.append_assoc] at hrest
      rw [htext, List.append_assoc, List.append_assoc, List.append_assoc, readNames?,
        readName?_append hquote]
      simp only [Option.bind_eq_bind, Option.bind_some]
      rw [keyword?_append ", "]
      simp only [hrest, Option.bind_some]

theorem chars_insert (table : String) (columns : List String) :
    (Command.insert table columns).chars d = "INSERT INTO ".toList ++ (quoted d table ++
      (" (".toList ++ (commaSeparated (columns.map (quoted d)) ++ ")".toList ++
        (" VALUES (".toList ++ (marks columns.length ++ ')' :: []))))) := by
  have hsplit : ") VALUES (".toList = ")".toList ++ " VALUES (".toList := by decide +kernel
  show "INSERT INTO ".toList ++ quoted d table ++ " (".toList ++
    commaSeparated (columns.map (quoted d)) ++ ") VALUES (".toList ++ marks columns.length ++
      [')'] = _
  rw [hsplit]
  simp only [List.append_assoc]

theorem readCommand?_insert {table : String} {columns : List String} (h : columns ≠ []) :
    readCommand? d ((Command.insert table columns).chars d) = some (.insert table columns) := by
  have hread : readInsert? d ((Command.insert table columns).chars d) = some (table, columns) := by
    have hlength : (commaSeparated (columns.map (quoted d))).length <
        ((Command.insert table columns).chars d).length + 1 := by
      rw [chars_insert]
      simp only [List.length_append]
      omega
    unfold readInsert?
    generalize ((Command.insert table columns).chars d).length + 1 = fuel at hlength ⊢
    rw [chars_insert, keyword?_append "INSERT INTO "]
    simp only [Option.bind_eq_bind, Option.bind_some]
    rw [readName?_append (head?_blank_append (by decide))]
    simp only [Option.bind_some]
    rw [keyword?_append " ("]
    simp only [Option.bind_some]
    rw [readNames?_append h hlength]
    simp only [Option.bind_some]
    rw [keyword?_append " VALUES ("]
    simp only [Option.bind_some]
    rw [readCount?_append]
    simp only [Option.bind_some, if_pos]
  rw [chars_insert] at hread ⊢
  rw [readCommand?, if_neg (ne_columnsQuery (by decide)),
    readSelect?_eq_none (keyword?_eq_none (by decide)), hread]
  rfl

theorem readCommand?_select (q : Select) :
    readCommand? d ((Command.select q).chars d) = some (.select q) := by
  have hne : (Command.select q).chars d ≠ d.columnsQuery.toList := by
    show q.chars d ≠ _
    rw [q.chars_eq]
    exact ne_columnsQuery (by decide)
  rw [readCommand?, if_neg hne]
  have hread : readSelect? d ((Command.select q).chars d) = some q := readSelect?_chars q
  rw [hread]
  rfl

theorem readEcho?_append {n : Nat} {names : List String} (hn : names ≠ [])
    (h : (commaSeparated (names.map fun m => "? AS ".toList ++ quoted d m)).length < n) :
    readEcho? d n (commaSeparated (names.map fun m => "? AS ".toList ++ quoted d m)) =
      some names := by
  induction names generalizing n with
  | nil => contradiction
  | cons m names ih =>
    obtain ⟨n, rfl⟩ : ∃ k, n = k + 1 := ⟨n - 1, by omega⟩
    cases names with
    | nil =>
      have htext : commaSeparated ([m].map fun m => "? AS ".toList ++ quoted d m) =
          "? AS ".toList ++ (quoted d m ++ []) := by
        simp [commaSeparated]
      have hquote : ([] : List Char).head? ≠ some d.quote := by simp
      rw [htext, readEcho?, keyword?_append "? AS "]
      simp only [Option.bind_eq_bind, Option.bind_some, readName?_append hquote]
    | cons m' names =>
      have htext : commaSeparated ((m :: m' :: names).map fun m => "? AS ".toList ++ quoted d m) =
          "? AS ".toList ++ (quoted d m ++ (", ".toList ++
            commaSeparated ((m' :: names).map fun m => "? AS ".toList ++ quoted d m))) := by
        simp only [List.map_cons, commaSeparated_cons_cons, List.append_assoc]
      have hquote : (", ".toList ++ commaSeparated ((m' :: names).map fun m =>
          "? AS ".toList ++ quoted d m)).head? ≠ some d.quote := by
        cases d <;> simp [Dialect.quote]
      have hlength : (commaSeparated ((m' :: names).map fun m =>
          "? AS ".toList ++ quoted d m)).length < n := by
        rw [htext] at h
        simp only [List.length_append] at h
        have : ", ".toList.length = 2 := rfl
        omega
      have hrest := ih (List.cons_ne_nil _ _) hlength
      rw [htext, readEcho?, keyword?_append "? AS "]
      simp only [Option.bind_eq_bind, Option.bind_some, readName?_append hquote]
      show (keyword? ", " (", ".toList ++ _)).bind _ = _
      rw [keyword?_append ", ", Option.bind_some, hrest]
      rfl

theorem chars_echo (names : List String) : (Command.echo names).chars d =
    "SELECT ".toList ++ commaSeparated (names.map fun m => "? AS ".toList ++ quoted d m) := rfl

theorem commaSeparated_echo {names : List String} (h : names ≠ []) :
    ∃ rest, commaSeparated (names.map fun m => "? AS ".toList ++ quoted d m) =
      "? AS ".toList ++ rest := by
  match names with
  | [] => contradiction
  | [m] => exact ⟨quoted d m, by simp [commaSeparated]⟩
  | m :: m' :: names =>
    simp only [List.map_cons, commaSeparated_cons_cons, List.append_assoc]
    exact ⟨_, rfl⟩

theorem readCommand?_echo {names : List String} (h : names ≠ []) :
    readCommand? d ((Command.echo names).chars d) = some (.echo names) := by
  have hread : (keyword? "SELECT " ((Command.echo names).chars d)).bind
      (readEcho? d (((Command.echo names).chars d).length + 1)) = some names := by
    rw [chars_echo, keyword?_append "SELECT ", Option.bind_some]
    apply readEcho?_append h
    rw [List.length_append]
    omega
  -- The other readers are ruled out by the first placeholder.
  obtain ⟨rest, hrest⟩ := commaSeparated_echo (d := d) h
  have hchars : (Command.echo names).chars d = "SELECT ? AS ".toList ++ rest := by
    have hsplit : "SELECT ? AS ".toList = "SELECT ".toList ++ "? AS ".toList := by decide +kernel
    rw [chars_echo, hrest, hsplit, List.append_assoc]
  rw [hchars] at hread ⊢
  rw [readCommand?, if_neg (ne_columnsQuery (by decide)),
    readSelect?_eq_none (keyword?_eq_none (by decide)),
    readInsert?_eq_none (keyword?_eq_none (by decide)),
    readCreateTable?_eq_none (keyword?_eq_none (by decide)),
    readAddColumn?_eq_none (keyword?_eq_none (by decide)), hread]
  rfl

theorem Command.read?_insert {table : String} {columns : List String} (h : columns ≠ []) :
    Command.read? d ((Command.insert table columns).text d) = some (.insert table columns) := by
  rw [read?, toList_text, readCommand?_insert h]

theorem Command.read?_select (q : Select) :
    Command.read? d ((Command.select q).text d) = some (.select q) := by
  rw [read?, toList_text, readCommand?_select]

theorem Command.read?_echo {names : List String} (h : names ≠ []) :
    Command.read? d ((Command.echo names).text d) = some (.echo names) := by
  rw [read?, toList_text, readCommand?_echo h]

theorem Command.read?_echo_nil : Command.read? d ((Command.echo []).text d) = none := by
  have hchars : (Command.echo []).chars d = "SELECT ".toList := by
    rw [chars_echo, List.map_nil, commaSeparated, List.intercalate_nil, List.append_nil]
  have hne : "SELECT ".toList ≠ d.columnsQuery.toList := by
    intro heq
    have hbegin := take_columnsQuery (d := d)
    rw [← heq] at hbegin
    exact absurd hbegin (by decide)
  have hecho : (keyword? "SELECT " "SELECT ".toList).bind
      (readEcho? d ("SELECT ".toList.length + 1)) = none := by
    cases d <;> decide
  rw [read?, toList_text, hchars, readCommand?, if_neg hne,
    readSelect?_eq_none (by decide), readInsert?_eq_none (by decide),
    readCreateTable?_eq_none (by decide), readAddColumn?_eq_none (by decide), hecho]
  rfl

end SqlAdapter.Sql
