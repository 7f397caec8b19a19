import ListenDeck.App.Basic

/-!
# The application at work

The application with the requests it sent and that are not answered yet. Requests are numbered in
the order they were sent; the replies may come in any order.

* `Live.Event`: everything that can happen.
* `Live.step`, `Live.run`: what it leads to.
-/

namespace ListenDeck

/-- A request that was sent for a call. -/
structure Sent where
  number : Nat
  call : Pending
  request : Request

/-- The application with the requests that are not answered yet. -/
structure Live where
  app : App
  /-- The requests that are not answered, in the order they were sent. -/
  waiting : List Sent := []
  /-- The number of requests sent so far. -/
  requests : Nat := 0
  deriving Inhabited

namespace Live

/-- What can happen. -/
inductive Event where
  | act (message : App.Message)
  /-- The reply to the request of a number. -/
  | reply (number : Nat) (reply : Reply)
  | pass (ms : Nat)
  deriving Repr

/-- An event leads to one call at most, and a call that is settled without a request to one more at
most. -/
def maxCalls : Nat := 4

/-- Makes calls: a request is sent for each, unless it is settled without one; at most `fuel`
calls. -/
def dispatch : Nat → Live → List Pending → Live
  | 0, l, _ => l
  | _, l, [] => l
  | fuel + 1, l, c :: rest =>
    match c.errand.call.send c.base with
    | .sent request =>
      dispatch fuel
        { l with
          waiting := l.waiting ++ [{ number := l.requests, call := c, request }]
          requests := l.requests + 1 } rest
    | .unsent result =>
      let (app, more) := l.app.receive c result
      dispatch fuel { l with app } (rest ++ more)

/-- After something happened to the application. -/
def afterTurn (l : Live) (t : App.Turn) : Live := dispatch maxCalls { l with app := t.1 } t.2

/-- The application when it starts on a store in a directory. -/
def start (home : String) (store : Store) : Live :=
  let t := App.start home store
  ({ app := t.1 } : Live).afterTurn t

/-- The request of a number is answered. -/
def settle (l : Live) (number : Nat) (reply : Reply) : Live :=
  match l.waiting.find? (·.number = number) with
  | none => l
  | some s =>
    { l with waiting := l.waiting.filter (·.number ≠ number) }.afterTurn
      (l.app.receive s.call (s.call.errand.call.settle s.request reply))

/-- What an event leads to. -/
def step (l : Live) : Event → Live
  | .act m => l.afterTurn (l.app.update m)
  | .reply number reply => l.settle number reply
  | .pass ms => { l with app := l.app.pass ms }

/-- What a list of events leads to. -/
def run (l : Live) (events : List Event) : Live := events.foldl step l

end Live

end ListenDeck
