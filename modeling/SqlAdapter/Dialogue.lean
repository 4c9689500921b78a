import SqlAdapter.Error
import SqlAdapter.Record
import SqlAdapter.Statement

/-!
# Dialogues

A computation that sends statements to a database and goes on with the replies. A dialogue says nothing
about the database: `Dialogue.run` plays it against any function that answers calls and keeps a state.
Main statement: a dialogue followed by another runs in this order, the second from the state that the
first leaves.
-/

set_option autoImplicit false

namespace SqlAdapter

/-- How a database acknowledges a statement that writes. -/
inductive Ack where
  /-- It echoes the rows that it has written. -/
  | rows (rs : List Record)
  /-- It gives their number alone. -/
  | affected (n : UInt64)
  deriving DecidableEq

/-- A statement on its way to the database. -/
inductive Call where
  /-- A statement that is acknowledged. -/
  | execute (s : Statement)
  /-- A statement that is answered with rows. -/
  | query (s : Statement)
  deriving DecidableEq

def Call.statement : Call → Statement
  | execute s | query s => s

abbrev Call.Reply : Call → Type
  | execute _ => Except Error Ack
  | query _ => Except Error (List Record)

inductive Dialogue (α : Type) where
  | done (a : α)
  | call (c : Call) (next : c.Reply → Dialogue α)

namespace Dialogue

variable {α β γ σ : Type}

def bind : Dialogue α → (α → Dialogue β) → Dialogue β
  | done a, f => f a
  | call c next, f => call c fun r => (next r).bind f

instance : Monad Dialogue where
  pure := done
  bind := bind

def ask (c : Call) : Dialogue c.Reply := call c done

/-- Plays a dialogue against a function that answers calls. -/
def run (answer : (c : Call) → σ → c.Reply × σ) : Dialogue α → σ → α × σ
  | done a, s => (a, s)
  | call c next, s => (next (answer c s).1).run answer (answer c s).2

variable {answer : (c : Call) → σ → c.Reply × σ}

@[simp] theorem pure_eq (a : α) : (pure a : Dialogue α) = done a := rfl

@[simp] theorem bind_eq (x : Dialogue α) (f : α → Dialogue β) : x >>= f = x.bind f := rfl

@[simp] theorem done_bind (a : α) (f : α → Dialogue β) : (done a).bind f = f a := rfl

@[simp] theorem call_bind (c : Call) (next : c.Reply → Dialogue α) (f : α → Dialogue β) :
    (call c next).bind f = call c fun r => (next r).bind f := rfl

@[simp] theorem bind_done (x : Dialogue α) : x.bind done = x := by
  induction x with
  | done a => rfl
  | call c next ih => simp [ih]

theorem bind_assoc (x : Dialogue α) (f : α → Dialogue β) (g : β → Dialogue γ) :
    (x.bind f).bind g = x.bind fun a => (f a).bind g := by
  induction x with
  | done a => rfl
  | call c next ih => simp [ih]

@[simp] theorem run_done (a : α) (s : σ) : (done a).run answer s = (a, s) := rfl

@[simp] theorem run_call (c : Call) (next : c.Reply → Dialogue α) (s : σ) :
    (call c next).run answer s = (next (answer c s).1).run answer (answer c s).2 := rfl

theorem run_bind (x : Dialogue α) (f : α → Dialogue β) (s : σ) :
    (x.bind f).run answer s =
      (f (x.run answer s).1).run answer (x.run answer s).2 := by
  induction x generalizing s with
  | done a => rfl
  | call c next ih => simp [ih]

end Dialogue

/-- A dialogue that may end in an error. -/
abbrev Attempt := ExceptT Error Dialogue

namespace Attempt

variable {α : Type}

/-- Sends a statement and waits for its acknowledgment. -/
def execute (s : Statement) : Attempt Ack := Dialogue.ask (.execute s)

/-- Sends a statement and waits for its rows. -/
def query (s : Statement) : Attempt (List Record) := Dialogue.ask (.query s)

def ofExcept (x : Except Error α) : Attempt α := Dialogue.done x

end Attempt

end SqlAdapter
