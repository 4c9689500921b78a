import SqlAdapter.Proofs.Sql.Rows
import SqlAdapter.Proofs.Value.Cells
import SqlAdapter.Proofs.Json.Ordered
import SqlAdapter.Datasource.Rows
import SqlAdapter.Database.Basic

/-!
# Values that pass through a server

Named values that a statement selects come back as one record. Each column of the row is read by its
storage class and put into the record under its name, so that of a repeated name the last column counts.

Main statement: the record has the names that were sent, each with its last value as the server keeps it,
and when it is sent itself it comes back unchanged.
-/

set_option autoImplicit false

namespace SqlAdapter

namespace Record

variable {r : Record} {columns : List (String × Value)}

theorem ofList_eq_foldl (columns : List (String × Value)) :
    ofList columns = columns.foldl (fun r c => r.insert c.1 c.2) ∅ := by
  apply Record.ext
  show columns.foldl (fun l c => Keyed.insert c.1 c.2 l) (∅ : Record).entries = _
  exact List.foldl_hom Record.entries fun _ _ => rfl

/-- What named values come back as from a database that keeps the cells bound for them. -/
def passed? (keep : Cell → Cell) (columns : List (String × Value)) : Option Record :=
  ofRow? (columns.map fun c => (c.1, keep c.2.cell))

theorem passed?_eq {keep : Cell → Cell} (h : Cell.Keeps keep) (columns : List (String × Value)) :
    passed? keep columns = some (ofList (columns.map fun c => (c.1, c.2.stored))) := by
  rw [passed?, ofRow?, ofList_eq_foldl]
  generalize (∅ : Record) = r
  induction columns generalizing r with
  | nil => rfl
  | cons c columns ih =>
    simp only [List.map_cons, List.foldlM_cons, List.foldl_cons, h.read?_keep, Option.map_some,
      Option.bind_eq_bind, Option.bind_some, ih]

/-- A record holds what comes back for named values: their names and no others, and under each name what
the last value of this name comes back as. -/
structure Echoes (columns : List (String × Value)) (r : Record) : Prop where
  names : ∀ name, name ∈ r.names ↔ name ∈ columns.map Prod.fst
  last : ∀ before name v after, columns = before ++ (name, v) :: after → (∀ c ∈ after, c.1 ≠ name) →
    ∃ w, r.get? name = some w ∧ v.ReadsBack w

theorem echoes_stored (columns : List (String × Value)) :
    Echoes columns (ofList (columns.map fun c => (c.1, c.2.stored))) where
  names name := by
    rw [Record.names, ofList, Keyed.mem_keys_ofList, List.map_map]
    rfl
  last := by
    rintro before name v after rfl hafter
    refine ⟨v.stored, ?_, Value.readsBack_iff.2 rfl⟩
    rw [List.map_append, List.map_cons]
    apply Keyed.get?_ofList_of_last
    intro c hc
    obtain ⟨c', hc', rfl⟩ := List.mem_map.1 hc
    exact hafter c' hc'

theorem ofList_stored_entries
    (hr : r = ofList (columns.map fun c => (c.1, c.2.stored))) :
    ofList (r.entries.map fun c => (c.1, c.2.stored)) = r := by
  have hstored : ∀ c ∈ r.entries, (c.1, c.2.stored) = c := by
    intro c hc
    rw [hr] at hc
    obtain ⟨c', -, rfl⟩ := List.mem_map.1 (Keyed.mem_ofList hc)
    rw [Value.stored_stored]
  have hentries : r.entries.map (fun c => (c.1, c.2.stored)) = r.entries :=
    (List.map_congr_left hstored).trans r.entries.map_id
  apply Record.ext
  rw [hentries]
  exact Keyed.ofList_of_ascending r.ascending

end Record

/-- A server answers named values with the row that is read from the cells that it keeps of them, and leaves
its database as it is. Where there is nothing to select it refuses. -/
structure PassesCells {σ : Type} (view : σ → Database) (answer : (c : Call) → σ → c.Reply × σ)
    (keep : Cell → Cell) : Prop where
  row (s : σ) (columns : List (String × Value)) (h : columns ≠ []) :
    ∃ r, Record.passed? keep columns = some r ∧
      (answer (.query (.echo (view s).dialect columns)) s).1 = .ok [r]
  nothing (s : σ) : ∃ e, (answer (.query (.echo (view s).dialect [])) s).1 = .error e
  still (s : σ) (columns : List (String × Value)) :
    view (answer (.query (.echo (view s).dialect columns)) s).2 = view s

/-- Named values that are selected come back as one record, in which a name has its last value; a Boolean
has become an integer, a NaN null, and nothing else has changed. When the record is sent again, it comes
back as it is. Without a value there is nothing to select, and the statement is refused. -/
theorem PassesCells.echo_reads_back {σ : Type} {view : σ → Database}
    {answer : (c : Call) → σ → c.Reply × σ} {keep : Cell → Cell} (h : PassesCells view answer keep)
    (hkeep : Cell.Keeps keep) (s : σ) :
    let select (columns : List (String × Value)) (s : σ) :=
      (Datasource.queryAll (.echo (view s).dialect columns)).run.run answer s
    (∃ e s', select [] s = (.error e, s') ∧ view s' = view s) ∧
      ∀ columns ≠ [], ∃ (r : Record) (s' s'' : σ),
        select columns s = (.ok [r], s') ∧ Record.passed? keep columns = some r ∧
        r.Echoes columns ∧
        select r.entries s' = (.ok [r], s'') ∧ Record.passed? keep r.entries = some r ∧
        view s' = view s ∧ view s'' = view s := by
  intro select
  constructor
  · obtain ⟨e, he⟩ := h.nothing s
    exact ⟨e, _, Prod.ext he rfl, h.still s []⟩
  · intro columns hne
    obtain ⟨r, hpassed, hreply⟩ := h.row s columns hne
    have hr : r = Record.ofList (columns.map fun c => (c.1, c.2.stored)) :=
      Option.some.inj (hpassed.symm.trans (Record.passed?_eq hkeep columns))
    have hechoes : r.Echoes columns := hr ▸ Record.echoes_stored columns
    have hentries : r.entries ≠ [] := by
      obtain ⟨c, hc⟩ := List.exists_mem_of_ne_nil columns hne
      have hname : c.1 ∈ r.names := (hechoes.names c.1).2 (List.mem_map_of_mem hc)
      obtain ⟨e, he, -⟩ := List.mem_map.1 hname
      exact List.ne_nil_of_mem he
    have hagain : Record.passed? keep r.entries = some r := by
      rw [Record.passed?_eq hkeep, Record.ofList_stored_entries hr]
    obtain ⟨s', hs'⟩ : ∃ s', (answer (.query (.echo (view s).dialect columns)) s).2 = s' := ⟨_, rfl⟩
    obtain ⟨r', hpassed', hreply'⟩ := h.row s' r.entries hentries
    obtain rfl : r = r' := Option.some.inj (hagain.symm.trans hpassed')
    have hstill : view s' = view s := hs' ▸ h.still s columns
    exact ⟨r, s', _, Prod.ext hreply hs', hpassed, hechoes, Prod.ext hreply' rfl, hagain, hstill,
      (h.still s' r.entries).trans hstill⟩

namespace Database

variable (db : Database) {columns : List (String × Value)}

theorem run_echo (h : columns ≠ []) : db.run (.echo db.dialect columns) =
    (.ok (.rows [.ofList (columns.map fun c => (c.1, c.2.stored))]), db) := by
  have hnames : columns.map Prod.fst ≠ [] := by simpa using h
  have hzip : (columns.map Prod.fst).zip ((columns.map Prod.snd).map Value.stored) =
      columns.map fun c => (c.1, c.2.stored) := by
    rw [List.map_map, List.zip_map']
    rfl
  rw [run, Statement.echo, Statement.ofCommand, Sql.Command.read?_echo hnames]
  show db.perform (.echo (columns.map Prod.fst)) ((columns.map Prod.snd).map Value.stored) = _
  rw [perform, hzip]

theorem run_echo_nil : db.run (.echo db.dialect []) = (.error notUnderstood, db) := by
  rw [run, Statement.echo, Statement.ofCommand, List.map_nil, Sql.Command.read?_echo_nil]

/-- The record that a database answers is the one that is read from the cells of any that keeps them. -/
theorem passesCells_answer {keep : Cell → Cell} (hkeep : Cell.Keeps keep) :
    PassesCells (fun db => db) answer keep where
  row db columns hne := by
    refine ⟨_, Record.passed?_eq hkeep columns, ?_⟩
    rw [answer, run_echo db hne]
    rfl
  nothing db := by
    refine ⟨notUnderstood.toError, ?_⟩
    rw [answer, run_echo_nil]
    rfl
  still db columns := by
    by_cases hne : columns = []
    · rw [hne, answer, run_echo_nil]
    · rw [answer, run_echo db hne]

/-- A name that is repeated, one that looks like the rest of the statement and one that is empty; values
without content, a NaN and an infinity. -/
theorem echo_reads_back_hostile :
    let columns : List (String × Value) :=
      [("a", .text "?"), ("A", .float ⟨0x7FF8000000000000⟩), ("\x60, ? AS \x60", .blob []),
        ("a", .bool true), ("", .text ""), ("z", .float ⟨0x7FF0000000000000⟩)]
    columns ≠ [] ∧ ∃ r : Record,
      (Datasource.queryAll (.echo .sqlite columns)).run.run answer sqlite = (.ok [r], sqlite) ∧
      Record.passed? Cell.kept columns = some r ∧
      r.get? "a" = some (.int 1) ∧ r.get? "A" = some .null ∧
      r.get? "\x60, ? AS \x60" = some (.blob []) ∧ r.get? "" = some (.text "") ∧
      r.get? "z" = some (.float ⟨0x7FF0000000000000⟩) ∧ "AS" ∉ r.names := by
  intro columns
  have hne : columns ≠ [] := List.cons_ne_nil _ _
  obtain ⟨r, db, -, hrun, hpassed, hr, -, -, hstill, -⟩ :=
    ((passesCells_answer Cell.keeps_kept).echo_reads_back Cell.keeps_kept sqlite).2 columns hne
  obtain rfl : db = sqlite := hstill
  have hget : ∀ before name v after, columns = before ++ (name, v) :: after →
      (∀ c ∈ after, c.1 ≠ name) → r.get? name = some v.stored := by
    intro before name v after hcolumns hafter
    obtain ⟨w, hw, hback⟩ := hr.last before name v after hcolumns hafter
    rw [hw, Value.readsBack_iff.1 hback]
  refine ⟨hne, r, hrun, hpassed, ?_, ?_, ?_, ?_, ?_, ?_⟩
  · exact hget (columns.take 3) "a" (.bool true) (columns.drop 4) rfl (by decide)
  · rw [hget (columns.take 1) "A" (.float ⟨0x7FF8000000000000⟩) (columns.drop 2) rfl (by decide)]
    decide +kernel
  · exact hget (columns.take 2) _ (.blob []) (columns.drop 3) rfl (by decide)
  · exact hget (columns.take 4) "" (.text "") (columns.drop 5) rfl (by decide)
  · rw [hget (columns.take 5) "z" (.float ⟨0x7FF0000000000000⟩) [] rfl (by decide)]
    decide +kernel
  · rw [hr.names]
    decide

end Database

end SqlAdapter
