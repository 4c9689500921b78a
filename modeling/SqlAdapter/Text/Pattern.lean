import SqlAdapter.Text.Ascii

/-!
# Patterns

In a pattern a percent sign stands for any run of characters, an underscore for exactly one, and a
letter from A to Z for itself in either case. Every other character stands for itself.

`Matches` says this rule by rule and `matchesPattern` decides it in time proportional to the product of
the two lengths: it keeps what can be left of the text after each character of the pattern. Main
statement: the two agree.
-/

set_option autoImplicit false

namespace SqlAdapter.Text

/-- Whether a pattern character other than the percent sign stands for a character. -/
def standsFor (c d : Char) : Bool := c = '_' || c.toLower = d.toLower

inductive Matches : List Char → List Char → Prop where
  | nil : Matches [] []
  | run {p s t : List Char} : s <:+ t → Matches p s → Matches ('%' :: p) t
  | one {c d : Char} {p t : List Char} :
      c ≠ '%' → standsFor c d = true → Matches p t → Matches (c :: p) (d :: t)

/-- The ends of a text, the longest first. -/
def ends : List Char → List (List Char)
  | [] => [[]]
  | d :: t => (d :: t) :: ends t

/-- What is left of a text behind a first character that `c` stands for. -/
def afterOne? (c : Char) : List Char → Option (List Char)
  | [] => none
  | d :: t => if standsFor c d then some t else none

/-- What can be left of texts once a pattern has been held against their beginnings. Every text is
an end of the one before it, so that all ends of them are ends of the first. -/
def remainders : List Char → List (List Char) → List (List Char)
  | [], ts => ts
  | c :: p, ts =>
    remainders p
      (if c = '%' then (ts.head?.map ends).getD [] else ts.filterMap (afterOne? c))

def matchesPattern (p t : List Char) : Bool := (remainders p [t]).any List.isEmpty

theorem mem_ends {s t : List Char} : s ∈ ends t ↔ s <:+ t := by
  induction t with
  | nil => simp [ends]
  | cons d t ih => simp [ends, ih, List.suffix_cons_iff]

theorem pairwise_ends (t : List Char) : (ends t).Pairwise fun a b => b <:+ a := by
  induction t with
  | nil => simp [ends]
  | cons d t ih =>
    exact List.pairwise_cons.2 ⟨fun s hs => (mem_ends.1 hs).trans (List.suffix_cons d t), ih⟩

theorem afterOne?_eq_some {c : Char} {s t : List Char} :
    afterOne? c t = some s ↔ ∃ d, t = d :: s ∧ standsFor c d = true := by
  cases t with
  | nil => simp [afterOne?]
  | cons d t => by_cases h : standsFor c d = true <;> grind [afterOne?]

theorem pairwise_filterMap_afterOne? (c : Char) {ts : List (List Char)}
    (h : ts.Pairwise fun a b => b <:+ a) :
    (ts.filterMap (afterOne? c)).Pairwise fun a b => b <:+ a := by
  refine List.pairwise_filterMap.2 (h.imp ?_)
  intro a b hab a' ha b' hb
  obtain ⟨d, rfl, _⟩ := afterOne?_eq_some.1 ha
  obtain ⟨e, rfl, _⟩ := afterOne?_eq_some.1 hb
  rcases List.suffix_cons_iff.1 hab with h | h
  · cases h
    exact List.suffix_refl _
  · exact (List.suffix_cons e b').trans h

/-- A pattern matches one of several texts when nothing can be left of one of them. -/
theorem nil_mem_remainders {p : List Char} {ts : List (List Char)}
    (h : ts.Pairwise fun a b => b <:+ a) :
    [] ∈ remainders p ts ↔ ∃ t ∈ ts, Matches p t := by
  induction p generalizing ts with
  | nil =>
    refine ⟨fun hm => ⟨[], hm, .nil⟩, ?_⟩
    rintro ⟨t, ht, hm⟩
    cases hm
    exact ht
  | cons c p ih =>
    by_cases hc : c = '%'
    · subst hc
      cases ts with
      | nil => simp [remainders, ih]
      | cons t ts =>
        simp only [remainders, if_true, List.head?_cons, Option.map_some, Option.getD_some,
          ih (pairwise_ends t)]
        constructor
        · rintro ⟨s, hs, hm⟩
          exact ⟨t, List.mem_cons_self, .run (mem_ends.1 hs) hm⟩
        · rintro ⟨u, hu, hm⟩
          have hut : u <:+ t := by
            rcases List.mem_cons.1 hu with rfl | hu
            · exact List.suffix_refl _
            · exact (List.pairwise_cons.1 h).1 u hu
          cases hm with
          | run hs hm => exact ⟨_, mem_ends.2 (hs.trans hut), hm⟩
          | one hne => exact absurd rfl hne
    · simp only [remainders, if_neg hc, ih (pairwise_filterMap_afterOne? c h)]
      constructor
      · rintro ⟨s, hs, hm⟩
        obtain ⟨t, ht, hts⟩ := List.mem_filterMap.1 hs
        obtain ⟨d, rfl, hd⟩ := afterOne?_eq_some.1 hts
        exact ⟨d :: s, ht, .one hc hd hm⟩
      · rintro ⟨t, ht, hm⟩
        cases hm with
        | run => exact absurd rfl hc
        | one _ hd hm => exact ⟨_, List.mem_filterMap.2 ⟨_, ht, afterOne?_eq_some.2 ⟨_, rfl, hd⟩⟩, hm⟩

theorem matchesPattern_iff {p t : List Char} : matchesPattern p t = true ↔ Matches p t := by
  have h := nil_mem_remainders (p := p) (List.pairwise_singleton (fun a b => b <:+ a) t)
  simpa [matchesPattern, List.any_eq_true] using h

example : matchesPattern "%MI_e%".toList "emile".toList = true := by decide
example : matchesPattern "_".toList [] = false := by decide
example : matchesPattern "é".toList "É".toList = false := by decide

end SqlAdapter.Text
