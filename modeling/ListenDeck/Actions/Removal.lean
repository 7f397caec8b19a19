import ListenDeck.Item.Basic

/-!
# Delayed removals

An item that the server deleted stays in its list for a while, shown as deleted. A timer is armed
for it; when the grace is over, all items of its identity leave the list, unless the timer was
cancelled before. Time is a clock that only moves on.

* `Removals.arm`, `Removals.cancel`, `Removals.advance`: the operations.
* `Removals.sweep`: takes the timers that are cancelled or over, in the order they were armed.
-/

namespace ListenDeck

/-- A removal that waits. -/
structure RemovalTimer where
  name : String
  identity : Identity
  /-- The moment it was armed. -/
  armedAt : Nat
  /-- The moment its grace is over. -/
  deadline : Nat
  cancelled : Bool := false
  deriving DecidableEq, Repr, Inhabited

/-- How a timer ended. -/
inductive TimerEnd where
  | cancelled
  /-- The grace is over; whether there was an item to remove. -/
  | elapsed (removed : Bool)
  deriving DecidableEq, Repr

/-- A list of items, the timers that wait, and the clock, in milliseconds. -/
structure Removals where
  now : Nat := 0
  grace : Nat := 1000
  timers : List RemovalTimer := []
  items : List Item := []
  deriving DecidableEq, Repr, Inhabited

namespace Removals

/-- Arms a timer for the items of an identity. -/
def arm (r : Removals) (name : String) (identity : Identity) : Removals :=
  { r with timers := r.timers ++
      [{ name, identity, armedAt := r.now, deadline := r.now + r.grace }] }

/-- Cancels the waiting timers of a name. -/
def cancel (r : Removals) (name : String) : Removals :=
  { r with timers := r.timers.map fun t =>
      if t.name = name then { t with cancelled := true } else t }

/-- Moves the clock. -/
def advance (r : Removals) (ms : Nat) : Removals := { r with now := r.now + ms }

/-- The list without the items of an identity. -/
def without (items : List Item) (identity : Identity) : List Item :=
  items.filter (·.identity ≠ identity)

/-- The timer still waits. -/
def waits (now : Nat) (t : RemovalTimer) : Bool := !t.cancelled && now < t.deadline

/-- Ends the timers of a list that no longer wait: how each ended, and the items that are left. -/
def sweepTimers (now : Nat) :
    List RemovalTimer → List Item → List (RemovalTimer × TimerEnd) × List Item
  | [], items => ([], items)
  | t :: rest, items =>
    if t.cancelled then
      let (ends, items) := sweepTimers now rest items
      ((t, .cancelled) :: ends, items)
    else if t.deadline ≤ now then
      let removed := items.any (·.identity = t.identity)
      let (ends, items) := sweepTimers now rest (without items t.identity)
      ((t, .elapsed removed) :: ends, items)
    else sweepTimers now rest items

/-- Ends the timers that no longer wait, in the order they were armed. -/
def sweep (r : Removals) : Removals × List (RemovalTimer × TimerEnd) :=
  let (ends, items) := sweepTimers r.now r.timers r.items
  ({ r with timers := r.timers.filter (waits r.now), items }, ends)

end Removals

end ListenDeck
