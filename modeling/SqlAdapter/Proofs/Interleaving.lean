import Mathlib.Logic.Function.Basic
import SqlAdapter.Proofs.Transcript

/-!
# Interleaved dialogues

Clients that talk to one database at the same time. Their calls reach it one by one, in any order; a
schedule says whose turn it is. A client whose dialogue has ended lets its turns pass, so every order in
which the calls can come is that of some schedule.
-/

set_option autoImplicit false

namespace SqlAdapter

/-- What each client has still to say, the state of the database, and what was exchanged so far. -/
structure Sessions (ι α σ : Type) where
  dialogue : ι → Dialogue α
  state : σ
  history : List (ι × Exchange) := []

namespace Sessions

variable {ι α σ : Type} {answer : (c : Call) → σ → c.Reply × σ} {g : Sessions ι α σ} {i : ι}

/-- What a client has come to, once its dialogue has ended. -/
def result? (g : Sessions ι α σ) (i : ι) : Option α :=
  match g.dialogue i with
  | .done a => some a
  | .call _ _ => none

theorem result?_eq_some {a : α} : g.result? i = some a ↔ g.dialogue i = .done a := by
  unfold result?
  cases g.dialogue i <;> simp

variable [DecidableEq ι]

/-- The next call of a client is answered. -/
def step (answer : (c : Call) → σ → c.Reply × σ) (g : Sessions ι α σ) (i : ι) : Sessions ι α σ :=
  match g.dialogue i with
  | .done _ => g
  | .call c next =>
    { dialogue := Function.update g.dialogue i (next (answer c g.state).1)
      state := (answer c g.state).2
      history := g.history ++ [(i, ⟨c, (answer c g.state).1⟩)] }

def run (answer : (c : Call) → σ → c.Reply × σ) (g : Sessions ι α σ) (schedule : List ι) :
    Sessions ι α σ :=
  schedule.foldl (step answer) g

theorem step_done {a : α} (h : g.dialogue i = .done a) : g.step answer i = g := by
  rw [step, h]

theorem step_call {c : Call} {next : c.Reply → Dialogue α} (h : g.dialogue i = .call c next) :
    g.step answer i =
      { dialogue := Function.update g.dialogue i (next (answer c g.state).1)
        state := (answer c g.state).2
        history := g.history ++ [(i, ⟨c, (answer c g.state).1⟩)] } := by
  rw [step, h]

theorem run_induction {P : Sessions ι α σ → Prop} (hstep : ∀ g i, P g → P (g.step answer i))
    (h : P g) (schedule : List ι) : P (g.run answer schedule) := by
  induction schedule generalizing g with
  | nil => exact h
  | cons i schedule ih => exact ih (hstep g i h)

/-- A client comes to its end when it has as many turns as its dialogue can have calls. -/
theorem isSome_result?_run {schedule : List ι}
    (h : (g.dialogue i).CallsAtMost (schedule.count i)) :
    ((g.run answer schedule).result? i).isSome := by
  induction schedule generalizing g with
  | nil =>
    cases hi : g.dialogue i with
    | done a => exact Option.isSome_of_eq_some (result?_eq_some.2 hi)
    | call c next =>
      rw [hi] at h
      exact absurd h.1 (Nat.not_lt_zero _)
  | cons j schedule ih =>
    apply ih
    cases hj : g.dialogue j with
    | done a =>
      rw [step_done hj]
      by_cases hij : i = j
      · subst hij
        rw [hj]
        trivial
      · rwa [List.count_cons_of_ne (Ne.symm hij)] at h
    | call c next =>
      rw [step_call hj]
      by_cases hij : i = j
      · subst hij
        rw [hj, List.count_cons_self] at h
        simp only [Function.update_self]
        exact h.2 _
      · simp only [Function.update_of_ne hij]
        rwa [List.count_cons_of_ne (Ne.symm hij)] at h

end Sessions

end SqlAdapter
