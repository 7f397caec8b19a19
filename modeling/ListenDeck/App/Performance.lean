import ListenDeck.App.Drawing
import ListenDeck.App.Live
import ListenDeck.Markup.Reach

/-!
# The application on stage

The application with a server whose replies are given in advance. Each request that arrives takes
the next reply; without one it is not answered. A reply may be held back until it is released. Where
the server cannot be reached no request arrives, and none is answered.

* `Performance.Command`: what can be done from outside.
* `Performance.step`: one command, after which everything runs until only held replies and timers
  are left.
-/

namespace ListenDeck

/-- A reply given in advance. -/
structure ScriptedReply where
  reply : Reply
  /-- It goes out only when it is released. -/
  hold : Bool := false
  deriving Repr, Inhabited

/-- The application with a server whose replies are given in advance. -/
structure Performance where
  live : Live
  /-- Requests arrive at the server. -/
  connected : Bool
  /-- The replies to come. -/
  script : List ScriptedReply := []
  /-- The held replies with the numbers of their requests, the longest held first. -/
  held : List (Nat × Reply) := []
  /-- The requests that arrived since the last command. -/
  arrived : List Request := []
  /-- The day on which all of it happens, in seconds since 1970. -/
  today : Int
  /-- The time zone in which all of it happens. -/
  zone : Zone
  deriving Inhabited

namespace Performance

/-- What can be done from outside. -/
inductive Command where
  /-- A click on an element of that name and place among those of the name. -/
  | click (name : String) (place : Nat)
  /-- Input into the element of that place. -/
  | input (place : Nat) (text : String)
  | submit
  | release
  | advance (ms : Nat)
  /-- The settings in the store are read. -/
  | recall
  deriving Repr

/-- What a command answers. -/
inductive Answer where
  | silent
  | fired
  | disabled
  | notFound
  /-- A held reply was released, or there was none. -/
  | released (was : Bool)
  | recalled (settings : Except Store.Error Settings)

/-- A request that nobody has replied to, not even with a held reply. -/
def open? (p : Performance) : Option Sent :=
  p.live.waiting.find? fun s => !p.held.any (·.1 = s.number)

/-- A request takes the next reply. -/
def take (p : Performance) (s : Sent) : Performance :=
  if p.connected then
    let p := { p with arrived := p.arrived ++ [s.request] }
    match p.script with
    | [] => { p with live := p.live.settle s.number .lost }
    | r :: rest =>
      let p := { p with script := rest }
      if r.hold then { p with held := p.held ++ [(s.number, r.reply)] }
      else { p with live := p.live.settle s.number r.reply }
  else { p with live := p.live.settle s.number .lost }

/-- Everything runs until only held replies and timers are left; at most `fuel` requests are
taken. -/
def settle : Nat → Performance → Performance
  | 0, p => p
  | fuel + 1, p =>
    match p.open? with
    | none => p
    | some s => settle fuel (p.take s)

/-- Everything runs until only held replies and timers are left. -/
def settled (p : Performance) : Performance := p.settle Live.maxCalls

/-- The application starts on a store in a directory. -/
def start (home : String) (store : Store) (connected : Bool) (script : List ScriptedReply)
    (today : Int) (zone : Zone := .utc) : Performance :=
  ({ live := .start home store, connected, script, today, zone } : Performance).settled

/-- The document that is shown. -/
def document (p : Performance) : List (Markup App.Message) := p.live.app.draw p.today p.zone

/-- The message of an event is sent, if the event reached an element that takes it. -/
def send (p : Performance) : Reach App.Message → Performance × Answer
  | .notFound => (p, .notFound)
  | .disabled => (p, .disabled)
  | .reached m => ({ p with live := p.live.step (.act m) }, .fired)

/-- The command itself. -/
def perform (p : Performance) : Command → Performance × Answer
  | .click name place => p.send (Markup.reachClick p.document name place)
  | .input place text => p.send (Markup.reachInput p.document place text)
  | .submit => p.send (Markup.reachSubmit p.document)
  | .advance ms => ({ p with live := p.live.step (.pass ms) }, .silent)
  | .recall => (p, .recalled p.live.app.store.load)
  | .release =>
    match p.held with
    | [] => (p, .released false)
    | (number, reply) :: rest =>
      ({ p with held := rest, live := p.live.settle number reply }, .released true)

/-- Replies are added to the script, the command is done, and everything runs. -/
def step (p : Performance) (replies : List ScriptedReply) (c : Command) : Performance × Answer :=
  let (p, answer) := { p with script := p.script ++ replies, arrived := [] }.perform c
  (p.settled, answer)

end Performance

end ListenDeck
