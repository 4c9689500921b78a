/-!
# Quoted names

A name is written between two quote characters, and a quote character inside it is written twice.
`read` takes a quoted name off the front of a text: it ends at the first quote character that is
not doubled. Main statements: reading gives back what was written and leaves what follows, and
nothing is readable but what writing produces.
-/

set_option autoImplicit false

namespace SqlAdapter.Text.Quoted

/-- The inside of a quoted name: every quote character doubled. -/
def double (q : Char) : List Char → List Char
  | [] => []
  | c :: r => if c = q then q :: q :: double q r else c :: double q r

def encode (q : Char) (s : List Char) : List Char := q :: (double q s ++ [q])

/-- Reads on inside a quoted name up to its closing quote; gives the name and what follows. -/
def readInside (q : Char) : List Char → Option (List Char × List Char)
  | [] => none
  | [c] => if c = q then some ([], []) else none
  | c :: d :: r =>
    if c = q then
      if d = q then (readInside q r).map fun p => (q :: p.1, p.2) else some ([], d :: r)
    else (readInside q (d :: r)).map fun p => (c :: p.1, p.2)

/-- Takes a quoted name off the front of a text. -/
def read (q : Char) : List Char → Option (List Char × List Char)
  | [] => none
  | c :: r => if c = q then readInside q r else none

/-- Reads a text that is one quoted name and nothing more. -/
def decode? (q : Char) (t : List Char) : Option (List Char) :=
  match read q t with
  | some (s, []) => some s
  | _ => none

variable {q : Char} {s t r : List Char}

@[simp] theorem readInside_double (h : r.head? ≠ some q) :
    readInside q (double q s ++ q :: r) = some (s, r) := by
  induction s with
  | nil =>
    cases r with
    | nil => simp [double, readInside]
    | cons d r => simp_all [double, readInside]
  | cons c s ih =>
    by_cases hc : c = q
    · simp [double, hc, readInside, ih]
    · obtain ⟨d, u, hu⟩ : ∃ d u, double q s ++ q :: r = d :: u :=
        List.exists_cons_of_ne_nil (by simp)
      rw [hu] at ih
      simp [double, hc, readInside, hu, ih]

theorem read_encode_append (h : r.head? ≠ some q) : read q (encode q s ++ r) = some (s, r) := by
  simp [read, encode, h]

theorem eq_of_readInside (h : readInside q t = some (s, r)) :
    t = double q s ++ q :: r ∧ r.head? ≠ some q := by
  fun_induction readInside q t generalizing s with
  | case1 => simp at h
  | case2 => simp_all [double]
  | case3 => simp at h
  | case4 u ih =>
    obtain ⟨⟨a, b⟩, hp, he⟩ := Option.map_eq_some_iff.1 h
    simp only [Prod.mk.injEq] at he
    obtain ⟨rfl, rfl⟩ := he
    obtain ⟨hu, hr⟩ := ih hp
    exact ⟨by simp [double, hu], hr⟩
  | case5 d u hd =>
    simp only [Option.some.injEq, Prod.mk.injEq] at h
    obtain ⟨rfl, rfl⟩ := h
    simp [double, hd]
  | case6 c d u hc ih =>
    obtain ⟨⟨a, b⟩, hp, he⟩ := Option.map_eq_some_iff.1 h
    simp only [Prod.mk.injEq] at he
    obtain ⟨rfl, rfl⟩ := he
    obtain ⟨hu, hr⟩ := ih hp
    exact ⟨by simp [double, hc, hu], hr⟩

theorem eq_encode_append_of_read (h : read q t = some (s, r)) :
    t = encode q s ++ r ∧ r.head? ≠ some q := by
  cases t with
  | nil => simp [read] at h
  | cons c t =>
    by_cases hc : c = q
    · simp only [read, hc, if_true] at h
      obtain ⟨ht, hr⟩ := eq_of_readInside h
      exact ⟨by simp [encode, ht, hc], hr⟩
    · simp [read, hc] at h

theorem decode?_of_eq_encode (s : List Char) : decode? q (encode q s) = some s := by
  have h : read q (encode q s) = some (s, []) := by
    simpa using read_encode_append (q := q) (s := s) (r := []) (by simp)
  simp [decode?, h]

theorem eq_encode_of_decode? (h : decode? q t = some s) : t = encode q s := by
  unfold decode? at h
  split at h
  · next heq =>
    simp only [Option.some.injEq] at h
    subst h
    simpa using (eq_encode_append_of_read heq).1
  · simp at h

end SqlAdapter.Text.Quoted
