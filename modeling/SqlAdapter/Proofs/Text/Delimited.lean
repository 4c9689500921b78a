import SqlAdapter.Text.Quoted

/-!
# Where a quoted name ends

A text is read as a quoted name exactly if it is the quoted form of that name, and a quoted name shows by
itself where it ends: two texts that begin with quoted names and go on with something other than a quote
are equal only if the names are, and what follows them. So no name can pass for another one, however many
quotes it has and wherever they stand.
-/

set_option autoImplicit false

namespace SqlAdapter.Text.Quoted

variable {q : Char} {n n' t r r' : List Char}

theorem decode?_eq_some_iff : decode? q t = some n ↔ t = encode q n := by
  constructor
  · exact eq_encode_of_decode?
  · rintro rfl
    exact decode?_of_eq_encode n

theorem encode_append_inj (hr : r.head? ≠ some q) (hr' : r'.head? ≠ some q)
    (h : encode q n ++ r = encode q n' ++ r') : n = n' ∧ r = r' := by
  have hread : some (n, r) = some (n', r') := by
    rw [← read_encode_append hr, h, read_encode_append hr']
  exact Prod.mk.inj (Option.some.inj hread)

theorem count_double (c : Char) :
    (double q n).count c = n.count c + if c = q then n.count q else 0 := by
  induction n with
  | nil => simp [double]
  | cons d n ih =>
    by_cases hd : d = q
    · subst hd
      by_cases hc : c = d
      · subst hc
        simp only [double, if_pos, List.count_cons_self] at ih ⊢
        omega
      · simp only [double, if_pos, if_neg hc, List.count_cons_of_ne (Ne.symm hc)] at ih ⊢
        exact ih
    · have hkept : (d :: n).count q = n.count q := List.count_cons_of_ne hd
      rw [double, if_neg hd, List.count_cons, List.count_cons, ih, hkept]
      omega

theorem count_encode (c : Char) :
    (encode q n).count c = n.count c + if c = q then n.count q + 2 else 0 := by
  by_cases hc : c = q
  · subst hc
    simp only [encode, List.count_cons_self, List.count_append, List.count_nil, count_double, if_pos]
    omega
  · simp [encode, count_double, hc, Ne.symm hc]

/-- Reading accepts the quoted form of a name and nothing else. In this form the quotes of the name stand
twice and all other characters once, between two more quotes. In front of anything but a quote, it cannot
be taken for the quoted form of another name. -/
theorem encode_delimits (q : Char) :
    (∀ n t, decode? q t = some n ↔ t = encode q n) ∧
      (∀ n c, (encode q n).count c = n.count c + if c = q then n.count q + 2 else 0) ∧
      ∀ n n' r r' : List Char, r.head? ≠ some q → r'.head? ≠ some q →
        encode q n ++ r = encode q n' ++ r' → n = n' ∧ r = r' := by
  refine ⟨fun n t => decode?_eq_some_iff, fun n c => count_encode c, ?_⟩
  intro n n' r r' hr hr' h
  exact encode_append_inj hr hr' h

/-- Four quotes are the name of one quote and five are no name; where four of them stand in front of a
blank, this name is the only one that can have been written. -/
theorem encode_delimits_quotes :
    let q := '\x60'
    decode? q [q, q, q, q] = some [q] ∧ decode? q [q, q, q, q, q] = none ∧
      [' ', q].head? ≠ some q ∧
      ∀ n r, r.head? ≠ some q → encode q n ++ r = [q, q, q, q, ' ', q] → n = [q] ∧ r = [' ', q] := by
  intro q
  obtain ⟨hread, -, hends⟩ := encode_delimits q
  refine ⟨(hread [q] [q, q, q, q]).2 rfl, rfl, by decide, ?_⟩
  intro n r hr h
  exact hends n [q] r [' ', q] hr (by decide) h

end SqlAdapter.Text.Quoted
