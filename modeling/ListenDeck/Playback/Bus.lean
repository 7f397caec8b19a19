import ListenDeck.Playback.Event
import ListenDeck.Text.Numeral
import ListenDeck.Text.Quoted

/-!
# The playback bus

The handlers that listen to playback events, in the order they subscribed. A handler is a program:
what it does when an event reaches it is a list of steps on the bus and its surroundings, so it may
subscribe, unsubscribe, publish and mount cards while an event is being delivered.

* `Step`, `Reaction`: what can be done, and when a handler does it.
* `Handler`: a list of reactions, or a card that follows what is played.
* `Bus`: the registered handlers.
-/

namespace ListenDeck

/-- The events that set off a reaction. -/
inductive Trigger where
  | any
  | kind (kind : PlaybackEvent.Kind)
  deriving DecidableEq, Repr, Inhabited

/-- The event sets off the reaction. -/
def Trigger.fits : Trigger → PlaybackEvent → Bool
  | .any, _ => true
  | .kind k, e => e.kind = k

mutual

/-- Something that can be done on the bus, by hand or by a handler. -/
inductive Step where
  /-- A new handler, in place of one of that name. -/
  | subscribe (name : String) (reactions : List Reaction)
  /-- The handler of that name listens no more. -/
  | unsubscribe (name : String)
  /-- The handle of that name is given up, and with it the handler. -/
  | drop (name : String)
  | publish (event : PlaybackEvent)
  /-- An event comes from outside, with the origin it claims. -/
  | receive (origin : String) (event : PlaybackEvent)
  /-- A new card, in place of one of that name; the reactions run whenever its mark changes,
  whether it is set or taken away. -/
  | mount (card : String) (item : Item) (onFlip : List Reaction)
  /-- The card asks for its item. -/
  | play (card : String)
  | unmount (card : String)
  | dropCard (card : String)
  /-- The bus is given up; cards keep theirs. -/
  | dropBus
  /-- The item of the event that is handled is said to be played. -/
  | confirm

/-- A step of a handler: the events that set it off, how often it may run, and what is done. For the
flips of a card there is no trigger by the new mark: what a card does on a flip is the same program
for both, and is not told which it is. -/
inductive Reaction where
  | on (trigger : Trigger) (times : Option Nat) (step : Step)

end

instance : Inhabited Step := ⟨.confirm⟩

namespace Reaction

/-- The events that set off the reaction. -/
def trigger : Reaction → Trigger
  | .on t _ _ => t

/-- How often the reaction may run; without a number, always. -/
def times : Reaction → Option Nat
  | .on _ n _ => n

/-- What is done. -/
def step : Reaction → Step
  | .on _ _ s => s

end Reaction

/-- Who listens to the bus. -/
inductive Handler where
  /-- Runs its reactions. -/
  | program (name : String) (reactions : List Reaction)
  /-- Marks a card while its item is played. -/
  | card (name : String) (item : Item) (onFlip : List Reaction)

/-- The registered handlers, with their numbers. -/
structure Bus where
  /-- Where events from outside must come from. -/
  origin : String
  nextId : Nat := 0
  handlers : List (Nat × Handler) := []

namespace Bus

/-- The numbers of the registered handlers, in order. -/
def ids (b : Bus) : List Nat := b.handlers.map (·.1)

/-- The handler of that number is registered. -/
def isRegistered (b : Bus) (id : Nat) : Bool := b.handlers.any (·.1 = id)

/-- The number of registered handlers. -/
def count (b : Bus) : Nat := b.handlers.length

/-- Registers a handler after the others, under a number of its own. -/
def subscribe (b : Bus) (h : Handler) : Bus × Nat :=
  ({ b with nextId := b.nextId + 1, handlers := b.handlers ++ [(b.nextId, h)] }, b.nextId)

/-- The bus without the handler of that number. -/
def remove (b : Bus) (id : Nat) : Bus := { b with handlers := b.handlers.filter (·.1 ≠ id) }

/-- The bus in a line. -/
def describe (b : Bus) : String :=
  "PlaybackBus \x7b origin: " ++ Text.quoted b.origin ++ ", subscribers: " ++
    Text.decimal b.count ++ " \x7d"

end Bus

/-- What a subscriber holds of its subscription. -/
structure Subscription where
  id : Nat
  active : Bool := true
  deriving DecidableEq, Repr, Inhabited

/-- The subscription in a line. -/
def Subscription.describe (s : Subscription) : String :=
  "Subscription \x7b id: " ++ Text.decimal s.id ++ ", active: " ++
    (if s.active then "true" else "false") ++ " \x7d"

end ListenDeck
