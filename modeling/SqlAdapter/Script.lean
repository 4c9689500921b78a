import SqlAdapter.Dialogue

/-!
# Scripted replies

A stand-in for a database: it answers each call with the next of the replies it was given, whatever the
call says, and keeps what it was sent. When the replies run out, writes have touched nothing and queries
find nothing.
-/

set_option autoImplicit false

namespace SqlAdapter

inductive Script.Reply where
  | rows (rs : List Record)
  | affected (n : UInt64)
  | failure (e : Error)

structure Script where
  replies : List Script.Reply := []
  /-- The calls received, the latest first. -/
  received : List Call := []

namespace Script

/-- A reply as the answer to a call. A count of rows answers a query with no rows. -/
def Reply.toCall : Reply → (c : Call) → c.Reply
  | rows rs, .execute _ => .ok (.rows rs)
  | affected n, .execute _ => .ok (.affected n)
  | failure e, .execute _ => .error e
  | rows rs, .query _ => .ok rs
  | affected _, .query _ => .ok []
  | failure e, .query _ => .error e

def answer (c : Call) (s : Script) : c.Reply × Script :=
  match s.replies with
  | [] => ((Reply.affected 0).toCall c, { s with received := c :: s.received })
  | r :: rest => (r.toCall c, ⟨rest, c :: s.received⟩)

def addReplies (s : Script) (rs : List Reply) : Script := { s with replies := s.replies ++ rs }

/-- The calls received since they were last taken, in their order. -/
def takeReceived (s : Script) : List Call × Script := (s.received.reverse, { s with received := [] })

end Script

end SqlAdapter
