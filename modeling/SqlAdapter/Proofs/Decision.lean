import Mathlib.Data.List.Forall2
import SqlAdapter.Keyed

/-!
# Computations that decide

A computation that may fail decides a property if it succeeds exactly where the property holds; the errors
with which it fails are specified beside it. Where its results are specified too, it computes them. Main
statement: going through a list decides whether all of it is accepted, and the error is that of the first
thing that is not; the results are those of the things in the list, in their order.
-/

set_option autoImplicit false

namespace SqlAdapter

/-- A computation that succeeds exactly on condition, and fails exactly with certain errors. -/
structure Decides {ε α : Type} (r : Except ε α) (accepted : Prop) (offence : ε → Prop) : Prop where
  ok_iff : (∃ a, r = .ok a) ↔ accepted
  error_iff (e : ε) : r = .error e ↔ offence e

namespace Decides

variable {ε α β : Type} {r : Except ε α} {k : α → Except ε β} {A B : Prop} {O P : ε → Prop}

theorem ok {a : α} (hA : A) (hO : ∀ e, ¬O e) : Decides (.ok a) A O where
  ok_iff := iff_of_true ⟨a, rfl⟩ hA
  error_iff e := iff_of_false (fun h => nomatch h) (hO e)

theorem error {e : ε} (hA : ¬A) (he : O e) (honly : ∀ e', O e' → e' = e) :
    Decides (.error e : Except ε α) A O where
  ok_iff := iff_of_false (fun ⟨_, h⟩ => nomatch h) hA
  error_iff e' := by
    constructor
    · rintro ⟨⟩
      exact he
    · intro h
      rw [honly e' h]

theorem total (h : Decides r A O) : A ∨ ∃ e, O e := by
  cases hr : r with
  | error e => exact .inr ⟨e, (h.error_iff e).1 hr⟩
  | ok a => exact .inl (h.ok_iff.1 ⟨a, hr⟩)

/-- A computation decides what is always one way or the other, if it follows both. -/
theorem of_total (hok : A → ∃ a, r = .ok a) (herror : ∀ e, O e → r = .error e) (htotal : A ∨ ∃ e, O e) :
    Decides r A O where
  ok_iff := by
    constructor
    · rintro ⟨a, ha⟩
      rcases htotal with hA | ⟨e, he⟩
      · exact hA
      · cases ha.symm.trans (herror e he)
    · exact hok
  error_iff e := by
    constructor
    · intro hr
      rcases htotal with hA | ⟨e', he'⟩
      · obtain ⟨a, ha⟩ := hok hA
        cases ha.symm.trans hr
      · cases hr.symm.trans (herror e' he')
        exact he'
    · exact herror e

theorem congr (h : Decides r A O) (hA : A ↔ B) (hO : ∀ e, O e ↔ P e) : Decides r B P where
  ok_iff := h.ok_iff.trans hA
  error_iff e := (h.error_iff e).trans (hO e)

/-- The second of two computations is judged only if the first succeeds. -/
theorem bind (h : Decides r A O) (hk : ∀ a, r = .ok a → Decides (k a) B P) :
    Decides (r >>= k) (A ∧ B) fun e => O e ∨ A ∧ P e := by
  apply of_total
  · rintro ⟨hA, hB⟩
    obtain ⟨a, ha⟩ := h.ok_iff.2 hA
    rw [ha]
    exact (hk a ha).ok_iff.2 hB
  · rintro e (he | ⟨hA, he⟩)
    · rw [(h.error_iff e).2 he]
      rfl
    · obtain ⟨a, ha⟩ := h.ok_iff.2 hA
      rw [ha]
      exact ((hk a ha).error_iff e).2 he
  · rcases h.total with hA | ⟨e, he⟩
    · obtain ⟨a, ha⟩ := h.ok_iff.2 hA
      rcases (hk a ha).total with hB | ⟨e, he⟩
      · exact .inl ⟨hA, hB⟩
      · exact .inr ⟨e, .inr ⟨hA, he⟩⟩
    · exact .inr ⟨e, .inl he⟩

theorem map (h : Decides r A O) (g : α → β) : Decides (r >>= fun a => .ok (g a)) A O := by
  have hok : ∀ a, r = .ok a → Decides (.ok (g a)) True fun _ : ε => False :=
    fun a _ => ok trivial fun _ => id
  apply (h.bind hok).congr
  · exact and_iff_left trivial
  · intro e
    simp

theorem cons {γ : Type} {accepted : γ → Prop} {offence : γ → ε → Prop} {x : γ} {l : List γ}
    (h : Decides r (accepted x) (offence x))
    (hk : ∀ a, r = .ok a → Decides (k a) (∀ y ∈ l, accepted y) fun e =>
      ∃ before y after, l = before ++ y :: after ∧ (∀ z ∈ before, accepted z) ∧ offence y e) :
    Decides (r >>= k) (∀ y ∈ x :: l, accepted y) fun e =>
      ∃ before y after, x :: l = before ++ y :: after ∧ (∀ z ∈ before, accepted z) ∧ offence y e := by
  apply (h.bind hk).congr
  · exact List.forall_mem_cons.symm
  · intro e
    constructor
    · rintro (hx | ⟨hx, before, y, after, rfl, hbefore, hy⟩)
      · exact ⟨[], x, l, rfl, List.forall_mem_nil _, hx⟩
      · exact ⟨x :: before, y, after, rfl, List.forall_mem_cons.2 ⟨hx, hbefore⟩, hy⟩
    · rintro ⟨before, y, after, hl, hbefore, hy⟩
      rcases before with _ | ⟨z, before⟩
      · obtain ⟨rfl, rfl⟩ := List.cons.inj hl
        exact .inl hy
      · obtain ⟨rfl, rfl⟩ := List.cons.inj hl
        rw [List.forall_mem_cons] at hbefore
        exact .inr ⟨hbefore.1, before, y, after, rfl, hbefore.2, hy⟩

theorem nil {γ : Type} {accepted : γ → Prop} {offence : γ → ε → Prop} {a : α} :
    Decides (.ok a) (∀ y ∈ ([] : List γ), accepted y) fun e =>
      ∃ before y after, [] = before ++ y :: after ∧ (∀ z ∈ before, accepted z) ∧ offence y e := by
  apply ok (List.forall_mem_nil _)
  rintro e ⟨before, x, after, hnil, -⟩
  simp at hnil

/-- In a list, everything in front of what fails is accepted. -/
theorem mapM {γ : Type} {f : γ → Except ε α} {accepted : γ → Prop} {offence : γ → ε → Prop} {l : List γ}
    (h : ∀ x ∈ l, Decides (f x) (accepted x) (offence x)) :
    Decides (l.mapM f) (∀ x ∈ l, accepted x) fun e =>
      ∃ before x after, l = before ++ x :: after ∧ (∀ y ∈ before, accepted y) ∧ offence x e := by
  induction l with
  | nil => exact nil
  | cons x l ih =>
    rw [List.forall_mem_cons] at h
    rw [List.mapM_cons]
    exact h.1.cons fun a _ => (ih h.2).map (a :: ·)

/-- Likewise where what is done to the things in a list adds up, if what was done before does not matter. -/
theorem foldlM {γ : Type} {f : α → γ → Except ε α} {accepted : γ → Prop} {offence : γ → ε → Prop}
    {l : List γ} (h : ∀ a, ∀ x ∈ l, Decides (f a x) (accepted x) (offence x)) (a : α) :
    Decides (l.foldlM f a) (∀ x ∈ l, accepted x) fun e =>
      ∃ before x after, l = before ++ x :: after ∧ (∀ y ∈ before, accepted y) ∧ offence x e := by
  induction l generalizing a with
  | nil => exact nil
  | cons x l ih =>
    rw [List.foldlM_cons]
    apply (h a x List.mem_cons_self).cons
    intro b _
    exact ih (fun b y hy => h b y (List.mem_cons_of_mem x hy)) b

end Decides

theorem Keyed.Ascending.not_lt_head {α : Type} {m y : String × α} {ms : List (String × α)}
    (h : Ascending (m :: ms)) (hy : y ∈ m :: ms) : ¬y.1 < m.1 := by
  intro hlt
  rcases List.mem_cons.1 hy with rfl | hy
  · exact String.lt_irrefl _ hlt
  · exact String.lt_irrefl _ (String.lt_trans hlt ((List.pairwise_cons.1 h).1 y hy))

/-- Among members in key order, those in front of a member are those with smaller keys. -/
theorem Keyed.Ascending.exists_split_iff {α : Type} {ms : List (String × α)} (h : Ascending ms)
    {A O : String × α → Prop} :
    (∃ before m after, ms = before ++ m :: after ∧ (∀ y ∈ before, A y) ∧ O m) ↔
      ∃ m ∈ ms, (∀ y ∈ ms, y.1 < m.1 → A y) ∧ O m := by
  constructor
  · rintro ⟨before, m, after, rfl, hbefore, hm⟩
    have hfrom : Ascending (m :: after) := (List.pairwise_append.1 h).2.1
    refine ⟨m, List.mem_append_right _ List.mem_cons_self, ?_, hm⟩
    intro y hy hlt
    rcases List.mem_append.1 hy with hy | hy
    · exact hbefore y hy
    · exact absurd hlt (hfrom.not_lt_head hy)
  · rintro ⟨m, hm, hsmaller, hO⟩
    obtain ⟨before, after, rfl⟩ := List.append_of_mem hm
    refine ⟨before, m, after, rfl, ?_, hO⟩
    intro y hy
    apply hsmaller y (List.mem_append_left _ hy)
    exact (List.pairwise_append.1 h).2.2 y hy m List.mem_cons_self

theorem Decides.mapM_ascending {ε α γ : Type} {f : String × γ → Except ε α} {accepted : String × γ → Prop}
    {offence : String × γ → ε → Prop} {ms : List (String × γ)} (hms : Keyed.Ascending ms)
    (h : ∀ m ∈ ms, Decides (f m) (accepted m) (offence m)) :
    Decides (ms.mapM f) (∀ m ∈ ms, accepted m) fun e =>
      ∃ m ∈ ms, (∀ y ∈ ms, y.1 < m.1 → accepted y) ∧ offence m e :=
  (mapM h).congr Iff.rfl fun _ => hms.exists_split_iff

theorem Decides.foldlM_ascending {ε α γ : Type} {f : α → String × γ → Except ε α}
    {accepted : String × γ → Prop} {offence : String × γ → ε → Prop} {ms : List (String × γ)}
    (hms : Keyed.Ascending ms) (h : ∀ a, ∀ m ∈ ms, Decides (f a m) (accepted m) (offence m)) (a : α) :
    Decides (ms.foldlM f a) (∀ m ∈ ms, accepted m) fun e =>
      ∃ m ∈ ms, (∀ y ∈ ms, y.1 < m.1 → accepted y) ∧ offence m e :=
  (foldlM h a).congr Iff.rfl fun _ => hms.exists_split_iff

theorem exists_forall₂_iff {α γ : Type} {result : γ → α → Prop} {l : List γ} :
    (∃ as, List.Forall₂ result l as) ↔ ∀ x ∈ l, ∃ a, result x a := by
  induction l with
  | nil => exact iff_of_true ⟨[], .nil⟩ (List.forall_mem_nil _)
  | cons x l ih =>
    rw [List.forall_mem_cons, ← ih]
    constructor
    · rintro ⟨_, h⟩
      cases h with
      | cons ha has => exact ⟨⟨_, ha⟩, _, has⟩
    · rintro ⟨⟨a, ha⟩, as, has⟩
      exact ⟨a :: as, .cons ha has⟩

/-- A computation that succeeds exactly with certain results, and fails exactly with certain errors. -/
structure Computes {ε α : Type} (r : Except ε α) (result : α → Prop) (offence : ε → Prop) : Prop where
  ok_iff (a : α) : r = .ok a ↔ result a
  error_iff (e : ε) : r = .error e ↔ offence e

namespace Computes

variable {ε α β γ : Type} {r : Except ε α} {R : α → Prop} {O : ε → Prop}

theorem of_total (hok : ∀ a, R a → r = .ok a) (herror : ∀ e, O e → r = .error e)
    (htotal : (∃ a, R a) ∨ ∃ e, O e) : Computes r R O where
  ok_iff a := by
    constructor
    · intro ha
      rcases htotal with ⟨b, hb⟩ | ⟨e, he⟩
      · cases ha.symm.trans (hok b hb)
        exact hb
      · cases ha.symm.trans (herror e he)
    · exact hok a
  error_iff e := by
    constructor
    · intro he
      rcases htotal with ⟨a, ha⟩ | ⟨f, hf⟩
      · cases he.symm.trans (hok a ha)
      · cases he.symm.trans (herror f hf)
        exact hf
    · exact herror e

theorem decides (h : Computes r R O) : Decides r (∃ a, R a) O where
  ok_iff := exists_congr h.ok_iff
  error_iff := h.error_iff

theorem congr {S : α → Prop} {P : ε → Prop} (h : Computes r R O) (hR : ∀ a, R a ↔ S a)
    (hO : ∀ e, O e ↔ P e) : Computes r S P where
  ok_iff a := (h.ok_iff a).trans (hR a)
  error_iff e := (h.error_iff e).trans (hO e)

theorem unique {a b : α} (h : Computes r R O) (ha : R a) (hb : R b) : a = b :=
  Except.ok.inj (((h.ok_iff a).2 ha).symm.trans ((h.ok_iff b).2 hb))

theorem map (h : Computes r R O) (g : α → β) :
    Computes (r.map g) (fun b => ∃ a, R a ∧ g a = b) O := by
  apply of_total
  · rintro b ⟨a, ha, rfl⟩
    rw [(h.ok_iff a).2 ha]
    rfl
  · intro e he
    rw [(h.error_iff e).2 he]
    rfl
  · rcases h.decides.total with ⟨a, ha⟩ | he
    · exact .inl ⟨g a, a, ha, rfl⟩
    · exact .inr he

theorem mapM {f : γ → Except ε α} {result : γ → α → Prop} {offence : γ → ε → Prop} {l : List γ}
    (h : ∀ x ∈ l, Computes (f x) (result x) (offence x)) :
    Computes (l.mapM f) (List.Forall₂ result l) fun e =>
      ∃ before x after, l = before ++ x :: after ∧ (∀ y ∈ before, ∃ a, result y a) ∧ offence x e where
  ok_iff as := by
    induction l generalizing as with
    | nil =>
      rw [List.mapM_nil, List.forall₂_nil_left_iff]
      exact ⟨fun h => (Except.ok.inj h).symm, fun h => congrArg Except.ok h.symm⟩
    | cons x l ih =>
      rw [List.forall_mem_cons] at h
      rw [List.mapM_cons, List.forall₂_cons_left_iff]
      constructor
      · intro has
        cases hx : f x with
        | error e =>
          rw [hx] at has
          cases has
        | ok a =>
          cases hl : l.mapM f with
          | error e =>
            rw [hx, hl] at has
            cases has
          | ok rest =>
            rw [hx, hl] at has
            cases has
            exact ⟨a, rest, (h.1.ok_iff a).1 hx, (ih h.2 rest).1 hl, rfl⟩
      · rintro ⟨a, rest, ha, hrest, rfl⟩
        rw [(h.1.ok_iff a).2 ha, (ih h.2 rest).2 hrest]
        rfl
  error_iff := (Decides.mapM fun x hx => (h x hx).decides).error_iff

end Computes

end SqlAdapter
