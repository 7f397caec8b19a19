import ListenDeck.Named
import ListenDeck.Playback.Bus

/-!
# The deck

A playback bus with the named handles and cards around it. An event is delivered to the handlers
that were registered when its delivery began and still are when their turn comes, in the order they
subscribed; what a handler does in its turn is done before the next one's turn. Handlers may set off
each other for ever, so a delivery is bounded by how deep deliveries may nest: `none` says that the
bound was reached.

* `Deck.publish`: the delivery of an event.
* `Deck.perform`: a step, given how nested events are delivered.
* `Deck.budget`: how deep deliveries can nest when every reaction has a number of times.
* `Deck.step`, `Deck.run`: steps by hand.
-/

namespace ListenDeck

/-- Something that happened during a delivery. -/
inductive Happening where
  /-- A handler was reached by an event. -/
  | handled (id : Nat) (name : String) (event : PlaybackEvent)
  /-- A card's mark changed. -/
  | flipped (id : Nat) (card : String) (playing : Bool)
  deriving DecidableEq, Repr

/-- A card on the deck. -/
structure Card where
  item : Item
  playing : Bool := false
  subscription : Subscription
  deriving DecidableEq, Repr, Inhabited

/-- A playback bus with the named handles and cards around it. -/
structure Deck where
  bus : Bus
  /-- Somebody besides the cards holds the bus. -/
  held : Bool := true
  handles : List (String × Subscription) := []
  cards : List (String × Card) := []
  /-- How often each reaction of each handler has run, by the handler's number and its place. -/
  uses : List ((Nat × Nat) × Nat) := []
  log : List Happening := []

namespace Deck

open Named

/-! ## Subscriptions -/

/-- Ends a subscription, unless it has ended. -/
def release (d : Deck) (s : Subscription) : Deck :=
  if s.active then { d with bus := d.bus.remove s.id } else d

/-- Registers a handler and keeps its subscription under a name; an older one of the name ends
after that. -/
def subscribe (d : Deck) (name : String) (reactions : List Reaction) : Deck :=
  let (bus, id) := d.bus.subscribe (.program name reactions)
  let old := find? name d.handles
  let d := { d with bus, handles := put name { id } d.handles }
  old.elim d d.release

/-- Ends the subscription kept under a name and keeps the handle. -/
def unsubscribe (d : Deck) (name : String) : Deck :=
  match find? name d.handles with
  | none => d
  | some s => { d.release s with handles := put name { s with active := false } d.handles }

/-- Gives up the handle kept under a name, and answers whether there was one. -/
def drop (d : Deck) (name : String) : Deck × Bool :=
  match find? name d.handles with
  | none => (d, false)
  | some s => ({ d.release s with handles := erase name d.handles }, true)

/-! ## Cards -/

/-- Puts a card on the deck under a name; an older one of the name is taken away after that. -/
def mount (d : Deck) (name : String) (item : Item) (onFlip : List Reaction) : Deck :=
  let (bus, id) := d.bus.subscribe (.card name item onFlip)
  let old := find? name d.cards
  let d := { d with bus, cards := put name { item, subscription := { id } } d.cards }
  old.elim d fun c => d.release c.subscription

/-- The card listens no more, and stays. -/
def unmount (d : Deck) (name : String) : Deck :=
  match find? name d.cards with
  | none => d
  | some c =>
    { d.release c.subscription with
      cards := put name { c with subscription := { c.subscription with active := false } } d.cards }

/-- Takes a card away, and answers whether there was one. -/
def dropCard (d : Deck) (name : String) : Deck × Bool :=
  match find? name d.cards with
  | none => (d, false)
  | some c => ({ d.release c.subscription with cards := erase name d.cards }, true)

/-- The card that a handler's number belongs to, with its name. -/
def cardOf? (d : Deck) (id : Nat) : Option (String × Card) :=
  d.cards.find? (·.2.subscription.id = id)

/-- The card of a handler's number is marked, or not. -/
def setPlaying (d : Deck) (id : Nat) (playing : Bool) : Deck :=
  { d with cards := d.cards.map fun c =>
      if c.2.subscription.id = id then (c.1, { c.2 with playing }) else c }

/-! ## Reactions -/

/-- How often the reaction at a place of a handler has run. -/
def usesOf (d : Deck) (id place : Nat) : Nat := (d.uses.lookup (id, place)).getD 0

/-- The reaction at a place of a handler runs once more. -/
def use (d : Deck) (id place : Nat) : Deck :=
  { d with uses := ((id, place), d.usesOf id place + 1) :: d.uses.filter (·.1 ≠ (id, place)) }

/-- The reaction has times left. -/
def mayRun (d : Deck) (id place : Nat) (r : Reaction) : Bool :=
  match r.times with
  | none => true
  | some n => d.usesOf id place < n

/-- What a step answers. -/
inductive Answer where
  | silent
  | was (b : Bool)
  deriving DecidableEq, Repr

/-- How an event is delivered. -/
abbrev Delivery := Deck → PlaybackEvent → Option Deck

/-- A step, given how its events are delivered. The event is the one that is being handled, if
any. -/
def perform (deliver : Delivery) (event : Option PlaybackEvent) (d : Deck) :
    Step → Option (Deck × Answer)
  | .subscribe name reactions =>
    some (if d.held then d.subscribe name reactions else d, .silent)
  | .unsubscribe name => some (d.unsubscribe name, .silent)
  | .drop name => let (d, was) := d.drop name; some (d, .was was)
  | .publish e => if d.held then (deliver d e).map (·, .silent) else some (d, .silent)
  | .receive origin e =>
    if d.held then
      if origin = d.bus.origin then (deliver d e).map (·, .was true) else some (d, .was false)
    else some (d, .silent)
  | .mount card item onFlip => some (if d.held then d.mount card item onFlip else d, .silent)
  | .play card =>
    match find? card d.cards with
    | none => some (d, .silent)
    | some c =>
      if c.playing then some (d, .was false)
      else (deliver d (.playRequested c.item)).map (·, .was true)
  | .unmount card => some (d.unmount card, .silent)
  | .dropCard card => let (d, was) := d.dropCard card; some (d, .was was)
  | .dropBus => some ({ d with held := false }, .was d.held)
  | .confirm =>
    match event with
    | some e =>
      if d.held then (deliver d (.nowPlaying e.item)).map (·, .silent) else some (d, .silent)
    | none => some (d, .silent)

/-- The reactions of a handler from a place on: each that the event sets off and that has times left
uses one of them and runs. -/
def react (deliver : Delivery) (id : Nat) (event : PlaybackEvent) :
    Nat → List Reaction → Deck → Option Deck
  | _, [], d => some d
  | place, r :: rest, d =>
    if r.trigger.fits event && d.mayRun id place r then
      match perform deliver (some event) (d.use id place) r.step with
      | none => none
      | some (d, _) => react deliver id event (place + 1) rest d
    else react deliver id event (place + 1) rest d

/-- A handler's turn. A card listens only to what is played. The reactions to a flip see the event,
and not the new mark of the card. -/
def handle (deliver : Delivery) (id : Nat) (event : PlaybackEvent) (d : Deck) :
    Handler → Option Deck
  | .program name reactions =>
    react deliver id event 0 reactions { d with log := d.log ++ [.handled id name event] }
  | .card name item onFlip =>
    match event with
    | .playRequested _ => some d
    | .nowPlaying current =>
      let playing := decide (current = item)
      if (d.cardOf? id).any (·.2.playing ≠ playing) then
        let d := d.setPlaying id playing
        react deliver id event 0 onFlip { d with log := d.log ++ [.flipped id name playing] }
      else some d

/-- The turns of a list of handlers, of which those that are registered no more are left out. -/
def deliverTo (deliver : Delivery) (event : PlaybackEvent) :
    List (Nat × Handler) → Deck → Option Deck
  | [], d => some d
  | (id, h) :: rest, d =>
    if d.bus.isRegistered id then
      match handle deliver id event d h with
      | none => none
      | some d => deliverTo deliver event rest d
    else deliverTo deliver event rest d

/-- Delivers an event to the handlers that are registered now; deliveries nest less than `depth`
times. -/
def publish : Nat → Delivery
  | 0, _, _ => none
  | depth + 1, d, event => deliverTo (publish depth) event d.bus.handlers d

/-! ## How deep deliveries nest -/

mutual

/-- A bound on the reactions that can run because of a step. -/
def stepBudget : Step → Nat
  | .subscribe _ reactions => reactionsBudget reactions
  | .mount _ _ onFlip => reactionsBudget onFlip
  | _ => 0

/-- A bound on the reactions that can run because of a reaction that has not run yet. -/
def reactionBudget : Reaction → Nat
  | .on _ times step => times.getD 1 * (1 + stepBudget step)

/-- The sum of the bounds of the reactions. -/
def reactionsBudget : List Reaction → Nat
  | [] => 0
  | r :: rest => reactionBudget r + reactionsBudget rest

end

/-- The reactions of a handler. -/
def reactionsOf : Handler → List Reaction
  | .program _ reactions => reactions
  | .card _ _ onFlip => onFlip

/-- The sum of the bounds of the reactions of registered handlers. -/
def handlersBudget : List (Nat × Handler) → Nat
  | [] => 0
  | (_, h) :: rest => reactionsBudget (reactionsOf h) + handlersBudget rest

/-- A bound on the depth of deliveries set off by a step, when every reaction has a number of times:
each delivery inside another one uses up one of them. -/
def budget (d : Deck) (s : Step) : Nat :=
  stepBudget s + handlersBudget d.bus.handlers + 2

/-- A step by hand. -/
def step (d : Deck) (s : Step) : Option (Deck × Answer) :=
  perform (publish (d.budget s)) none { d with log := [] } s

/-- The deck after a list of steps by hand, with what each answered. -/
def run : Deck → List Step → Option (Deck × List Answer)
  | d, [] => some (d, [])
  | d, s :: rest =>
    match d.step s with
    | none => none
    | some (d, answer) => (run d rest).map fun r => (r.1, answer :: r.2)

/-- A deck with nothing on it. -/
def start (origin : String) : Deck := { bus := { origin } }

/-- The origin of an application on its own. -/
def localOrigin : String := "app://brainzcards"

end Deck

end ListenDeck
