import SqlAdapter.Proofs.Placeholders
import SqlAdapter.Proofs.Sql.Names
import SqlAdapter.Proofs.Sql.Rows
import SqlAdapter.Proofs.Text.Bytes

/-!
# What an insertion shows

An insertion assigns values to columns: the names stand in the list of columns, the values beside the text
in the same order, and the text has a question mark for each of them. So a statement that inserts a record
shows the whole record and its table, whatever quotes, commas, parentheses and question marks their names
hold. Only the record without fields cannot be inserted.
-/

set_option autoImplicit false

namespace SqlAdapter

namespace Record

variable {r r' : Record}

theorem zip_names_values (r : Record) : r.names.zip r.values = r.entries :=
  (List.zip_of_prod rfl rfl).symm

theorem length_names (r : Record) : r.names.length = r.values.length := by
  simp [names, values]

theorem eq_of_names_values (hn : r.names = r'.names) (hv : r.values = r'.values) : r = r' := by
  apply Record.ext
  rw [← zip_names_values, ← zip_names_values, hn, hv]

theorem names_eq_nil_iff : r.names = [] ↔ r = ∅ := by
  rw [Record.ext_iff, names, List.map_eq_nil_iff]
  rfl

theorem bytes_names_ascending (r : Record) :
    r.names.Pairwise fun m n => Text.bytes m < Text.bytes n :=
  r.names_ascending.imp Text.bytes_lt_iff.2

end Record

namespace Statement

variable {d : Dialect} {table : String} {r : Record} {s : Statement} {e : CompileError}

theorem insert_empty : insert d table ∅ = .error (.emptyRecord table) := rfl

theorem insert_of_ne_empty (h : r ≠ ∅) :
    insert d table r = .ok (ofCommand d (.insert table r.names) r.values) := by
  unfold insert
  rw [if_neg]
  intro hempty
  exact h (Record.ext (List.isEmpty_iff.1 hempty))

theorem insert_eq_error_iff : insert d table r = .error e ↔ r = ∅ ∧ e = .emptyRecord table := by
  by_cases h : r = ∅
  · rw [h, insert_empty, Except.error.injEq]
    exact ⟨fun he => ⟨rfl, he.symm⟩, fun he => he.2.symm⟩
  · rw [insert_of_ne_empty h]
    exact ⟨nofun, fun he => absurd he.1 h⟩

theorem read?_insert (h : r ≠ ∅) :
    Sql.Command.read? d (ofCommand d (.insert table r.names) r.values).sql =
      some (.insert table r.names) :=
  Sql.Command.read?_insert (mt Record.names_eq_nil_iff.1 h)

theorem insert_inj {table' : String} {r' : Record} :
    insert d table r = insert d table' r' ↔ table = table' ∧ r = r' := by
  constructor
  · intro h
    by_cases hr : r = ∅
    · rw [hr, insert_empty] at h
      obtain ⟨hr', ht⟩ := insert_eq_error_iff.1 h.symm
      exact ⟨CompileError.emptyRecord.inj ht, hr.trans hr'.symm⟩
    · rw [insert_of_ne_empty hr] at h
      by_cases hr' : r' = ∅
      · rw [hr', insert_empty] at h
        cases h
      · rw [insert_of_ne_empty hr'] at h
        obtain ⟨htext, hvalues⟩ := Statement.ext_iff.1 (Except.ok.inj h)
        have hread : Sql.Command.read? d (ofCommand d (.insert table r.names) r.values).sql =
            some (.insert table r.names) := read?_insert hr
        rw [htext, read?_insert hr'] at hread
        obtain ⟨htable, hnames⟩ := Sql.Command.insert.inj (Option.some.inj hread)
        exact ⟨htable.symm, Record.eq_of_names_values hnames.symm hvalues⟩
  · rintro ⟨rfl, rfl⟩
    rfl

/-- A record is inserted exactly if it has fields. Then the quoted names of the text are the table and the
columns, the columns with the values beside them are the fields in the order of the bytes of their names,
and there are as many question marks outside the names as values. No other table or record is inserted by
the same statement. -/
theorem insert_shows_record (d : Dialect) (table : String) (r : Record) :
    (∀ e, insert d table r = .error e ↔ r = ∅ ∧ e = .emptyRecord table) ∧
    (r ≠ ∅ → ∃ s columns outside, insert d table r = .ok s ∧
      Sql.Command.read? d s.sql = some (.insert table columns) ∧
      Sql.scan d.quote none s.sql.toList = some ((table :: columns).map String.toList, outside) ∧
      columns.zip s.values = r.entries ∧ columns.length = s.values.length ∧
      outside.count '?' = s.values.length ∧
      columns.Pairwise fun m n => Text.bytes m < Text.bytes n) ∧
    ∀ (table' : String) (r' : Record),
      insert d table r = insert d table' r' ↔ table = table' ∧ r = r' := by
  refine ⟨fun e => insert_eq_error_iff, ?_, fun table' r' => insert_inj⟩
  intro h
  obtain ⟨outside, hscan, -, hmarks⟩ :=
    Sql.Command.scan_text (d := d) (c := .insert table r.names) trivial
  exact ⟨_, r.names, outside, insert_of_ne_empty h, read?_insert h, hscan, r.zip_names_values,
    r.length_names, hmarks.trans r.length_names, r.bytes_names_ascending⟩

/-- Names that look like the rest of the statement, one of them empty, and a table with a quote in it. -/
theorem insert_shows_record_hostile :
    let r := Record.ofList
      [("\x60, \x60) VALUES (?", .int 1), ("é?", .null), ("z", .text "?"), ("", .blob [])]
    r ≠ ∅ ∧ (∃ s columns outside, insert .sqlite "a\x60 (" r = .ok s ∧
      Sql.scan '\x60' none s.sql.toList = some (("a\x60 (" :: columns).map String.toList, outside) ∧
      columns.zip s.values =
        [("", .blob []), ("\x60, \x60) VALUES (?", .int 1), ("z", .text "?"), ("é?", .null)] ∧
      outside.count '?' = s.values.length) ∧
    insert .sqlite "a\x60 (" r ≠ insert .sqlite "a" r := by
  intro r
  have hr : r ≠ ∅ := by decide +kernel
  obtain ⟨-, hshown, hinj⟩ := insert_shows_record .sqlite "a\x60 (" r
  obtain ⟨s, columns, outside, hs, -, hscan, hzip, -, hmarks, -⟩ := hshown hr
  have hentries : r.entries =
      [("", .blob []), ("\x60, \x60) VALUES (?", .int 1), ("z", .text "?"), ("é?", .null)] := by
    decide +kernel
  refine ⟨hr, ⟨s, columns, outside, hs, hscan, hzip.trans hentries, hmarks⟩, ?_⟩
  rw [Ne, hinj "a" r]
  exact fun h => absurd h.1 (by decide)

end Statement

end SqlAdapter
