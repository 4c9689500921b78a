import SqlAdapter.Dialogue

/-!
# Transcripts

What a dialogue sends when it is played, and what it is answered. `Asks` says something of every call
that a dialogue can send, whatever the replies; it holds of all calls of a transcript, and of two
dialogues one after the other as soon as it holds of both. `Yields` says which exchanges bring a
dialogue to which end, `Halts` which end it at once, `CallsAtMost` how long it can last.
-/

set_option autoImplicit false

namespace SqlAdapter

/-- A call with the reply to it. -/
structure Exchange where
  call : Call
  reply : call.Reply

/-- Whether the reply is no error. -/
def Exchange.acknowledged : Exchange → Bool
  | ⟨.execute _, .ok _⟩ | ⟨.query _, .ok _⟩ => true
  | ⟨.execute _, .error _⟩ | ⟨.query _, .error _⟩ => false

namespace Dialogue

variable {α β σ : Type} {answer : (c : Call) → σ → c.Reply × σ} {P : Call → Prop}

/-- The calls of a dialogue and the replies to them, in their order. -/
def transcript (answer : (c : Call) → σ → c.Reply × σ) : Dialogue α → σ → List Exchange
  | done _, _ => []
  | call c next, s =>
    ⟨c, (answer c s).1⟩ :: (next (answer c s).1).transcript answer (answer c s).2

@[simp] theorem transcript_done (a : α) (s : σ) : (done a).transcript answer s = [] := rfl

@[simp] theorem transcript_call (c : Call) (next : c.Reply → Dialogue α) (s : σ) :
    (call c next).transcript answer s =
      ⟨c, (answer c s).1⟩ :: (next (answer c s).1).transcript answer (answer c s).2 := rfl

theorem transcript_bind (x : Dialogue α) (f : α → Dialogue β) (s : σ) :
    (x.bind f).transcript answer s = x.transcript answer s ++
      (f (x.run answer s).1).transcript answer (x.run answer s).2 := by
  induction x generalizing s with
  | done a => rfl
  | call c next ih => simp [ih]

/-- Every call that the dialogue can send satisfies `P`. -/
def Asks (P : Call → Prop) : Dialogue α → Prop
  | done _ => True
  | call c next => P c ∧ ∀ r, (next r).Asks P

@[simp] theorem asks_done (a : α) : (done a).Asks P := trivial

theorem Asks.bind {x : Dialogue α} {f : α → Dialogue β} (hx : x.Asks P)
    (hf : ∀ a, (f a).Asks P) : (x.bind f).Asks P := by
  induction x with
  | done a => exact hf a
  | call c next ih => exact ⟨hx.1, fun r => ih r (hx.2 r)⟩

theorem Asks.mono {Q : Call → Prop} {x : Dialogue α} (hx : x.Asks P) (h : ∀ c, P c → Q c) :
    x.Asks Q := by
  induction x with
  | done a => trivial
  | call c next ih => exact ⟨h c hx.1, fun r => ih r (hx.2 r)⟩

theorem Asks.transcript {x : Dialogue α} (hx : x.Asks P) {s : σ} {e : Exchange}
    (he : e ∈ x.transcript answer s) : P e.call := by
  induction x generalizing s with
  | done a => simp at he
  | call c next ih =>
    rcases List.mem_cons.1 he with rfl | he
    · exact hx.1
    · exact ih _ (hx.2 _) he

/-- These exchanges bring the dialogue to this end. -/
def Yields : Dialogue α → List Exchange → α → Prop
  | done a, es, b => es = [] ∧ b = a
  | call c next, es, b => ∃ r rest, es = ⟨c, r⟩ :: rest ∧ (next r).Yields rest b

theorem yields_run (answer : (c : Call) → σ → c.Reply × σ) (x : Dialogue α) (s : σ) :
    x.Yields (x.transcript answer s) (x.run answer s).1 := by
  induction x generalizing s with
  | done a => exact ⟨rfl, rfl⟩
  | call c next ih => exact ⟨_, _, rfl, ih _ _⟩

theorem Yields.of_bind {x : Dialogue α} {f : α → Dialogue β} {es : List Exchange} {b : β}
    (h : (x.bind f).Yields es b) :
    ∃ first rest a, es = first ++ rest ∧ x.Yields first a ∧ (f a).Yields rest b := by
  induction x generalizing es with
  | done a => exact ⟨[], es, a, rfl, ⟨rfl, rfl⟩, h⟩
  | call c next ih =>
    obtain ⟨r, es, rfl, h⟩ := h
    obtain ⟨first, rest, a, rfl, hx, hf⟩ := ih r h
    exact ⟨⟨c, r⟩ :: first, rest, a, rfl, ⟨r, first, rfl, hx⟩, hf⟩

/-- An exchange that fails ends the dialogue with what `out` makes of the error. -/
def Halts {ε : Type} (fails : Exchange → ε → Prop) (out : ε → α) : Dialogue α → Prop
  | done _ => True
  | call c next => ∀ r, (∀ e, fails ⟨c, r⟩ e → next r = done (out e)) ∧ (next r).Halts fails out

section Halts

variable {ε : Type} {fails : Exchange → ε → Prop} {out : ε → α} {out' : ε → β}

/-- Where the first of two dialogues ends in an error, the second must pass it on. -/
theorem Halts.bind {x : Dialogue α} {f : α → Dialogue β} (hx : x.Halts fails out)
    (hf : ∀ a, (f a).Halts fails out') (hout : ∀ e, f (out e) = done (out' e)) :
    (x.bind f).Halts fails out' := by
  induction x with
  | done a => exact hf a
  | call c next ih =>
    intro r
    constructor
    · intro e he
      show (next r).bind f = done (out' e)
      rw [(hx r).1 e he]
      exact hout e
    · exact ih r (hx r).2

theorem Halts.run {x : Dialogue α} (hx : x.Halts fails out) {s : σ} {before after : List Exchange}
    {y : Exchange} {e : ε} (htranscript : x.transcript answer s = before ++ y :: after)
    (hy : fails y e) : after = [] ∧ (x.run answer s).1 = out e := by
  induction x generalizing s before with
  | done a => simp at htranscript
  | call c next ih =>
    rw [transcript_call] at htranscript
    rw [run_call]
    cases before with
    | nil =>
      obtain ⟨rfl, rfl⟩ := List.cons.inj htranscript
      rw [(hx _).1 e hy]
      exact ⟨rfl, rfl⟩
    | cons z before => exact ih _ (hx _).2 (List.cons.inj htranscript).2

end Halts

/-- The dialogue ends after at most so many calls, whatever the replies. -/
def CallsAtMost : Dialogue α → Nat → Prop
  | done _, _ => True
  | call _ next, n => 0 < n ∧ ∀ r, (next r).CallsAtMost (n - 1)

theorem CallsAtMost.mono {x : Dialogue α} {n k : Nat} (h : x.CallsAtMost n) (hk : n ≤ k) :
    x.CallsAtMost k := by
  induction x generalizing n k with
  | done a => trivial
  | call c next ih =>
    constructor
    · exact Nat.lt_of_lt_of_le h.1 hk
    · intro r
      exact ih r (h.2 r) (Nat.sub_le_sub_right hk 1)

theorem CallsAtMost.bind {x : Dialogue α} {f : α → Dialogue β} {n k : Nat}
    (hx : x.CallsAtMost n) (hf : ∀ a, (f a).CallsAtMost k) : (x.bind f).CallsAtMost (n + k) := by
  induction x generalizing n with
  | done a => exact (hf a).mono (Nat.le_add_left k n)
  | call c next ih =>
    have hpos := hx.1
    have hn : n + k - 1 = n - 1 + k := by omega
    constructor
    · exact Nat.add_pos_left hpos k
    · intro r
      rw [hn]
      exact ih r (hx.2 r)

theorem CallsAtMost.map {x : Dialogue α} {n : Nat} (hx : x.CallsAtMost n) (g : α → β) :
    (x.bind fun a => .done (g a)).CallsAtMost n := by
  have h := hx.bind (k := 0) (f := fun a => done (g a)) fun _ => trivial
  exact h

end Dialogue

namespace Attempt

variable {α β : Type} {P : Call → Prop}

theorem bind_eq (x : Attempt α) (f : α → Attempt β) :
    x >>= f = Dialogue.bind x fun
      | .ok a => f a
      | .error e => .done (.error e) := by
  show Dialogue.bind x (ExceptT.bindCont f) = _
  congr 1
  funext r
  cases r <;> rfl

theorem bind_pure_eq (x : Attempt α) (g : α → β) :
    (x >>= fun a => pure (g a) : Attempt β) = Dialogue.bind x fun r => .done (r.map g) := by
  rw [bind_eq]
  congr 1
  funext r
  cases r <;> rfl

theorem asks_bind {x : Attempt α} {f : α → Attempt β} (hx : Dialogue.Asks P x)
    (hf : ∀ a, Dialogue.Asks P (f a)) : Dialogue.Asks P (x >>= f : Attempt β) := by
  rw [bind_eq]
  apply hx.bind
  intro r
  cases r with
  | ok a => exact hf a
  | error e => trivial

theorem asks_ofExcept (x : Except Error α) : Dialogue.Asks P (ofExcept x) := trivial

theorem asks_pure (a : α) : Dialogue.Asks P (pure a : Attempt α) := trivial

theorem asks_query {s : Statement} (h : P (.query s)) : Dialogue.Asks P (query s) :=
  ⟨h, fun _ => trivial⟩

end Attempt

end SqlAdapter
