import ListenDeck.Alerts.Notice

/-!
# The alert queue

The notices the user sees. Each has a number of its own and stays until it is dismissed or its
timeout, the one in force when it was raised, has passed.

* `AlertQueue.raise`, `AlertQueue.dismiss`, `AlertQueue.expire`: the operations.
* `AlertQueue.Event`, `AlertQueue.run`: alerts over time.
-/

namespace ListenDeck

/-- A notice the user sees. -/
structure Alert where
  number : Nat
  notice : Notice
  /-- The moment it goes away on its own. -/
  deadline : Nat
  deriving DecidableEq, Repr, Inhabited

/-- The notices the user sees, in the order they were raised. -/
structure AlertQueue where
  /-- The number of the latest alert; the first has number 1. -/
  last : Nat := 0
  alerts : List Alert := []
  deriving DecidableEq, Repr, Inhabited

namespace AlertQueue

/-- A new alert after the others. -/
def raise (q : AlertQueue) (now timeout : Nat) (notice : Notice) : AlertQueue :=
  { last := q.last + 1
    alerts := q.alerts ++ [{ number := q.last + 1, notice, deadline := now + timeout }] }

/-- The queue without the alert of a number. -/
def dismiss (q : AlertQueue) (number : Nat) : AlertQueue :=
  { q with alerts := q.alerts.filter (·.number ≠ number) }

/-- The queue without the alerts whose timeout has passed. -/
def expire (q : AlertQueue) (now : Nat) : AlertQueue :=
  { q with alerts := q.alerts.filter (now < ·.deadline) }

/-- What happens to a queue. -/
inductive Event where
  /-- An alert is raised while a timeout is in force. -/
  | raise (timeout : Nat) (notice : Notice)
  | dismiss (number : Nat)
  | pass (ms : Nat)
  deriving Repr

/-- The clock and the queue after an event. -/
def step : Nat × AlertQueue → Event → Nat × AlertQueue
  | (now, q), .raise timeout notice => (now, (q.raise now timeout notice).expire now)
  | (now, q), .dismiss number => (now, q.dismiss number)
  | (now, q), .pass ms => (now + ms, q.expire (now + ms))

/-- The clock and the queue after a list of events. -/
def run (start : Nat × AlertQueue) (events : List Event) : Nat × AlertQueue :=
  events.foldl step start

end AlertQueue

end ListenDeck
