import ListenDeck.Browse.Browser

/-!
# Browsing against a script

A browser whose server answers from a script: a queue of replies, some there at once, some behind a
gate that is opened or dropped later. Each fetch takes the next reply of the queue; when the queue
is empty the reply is an empty page. A request goes on until it ends or stands before a closed gate.

* `Rehearsal.Command`: what a script can do.
* `Rehearsal.step`: one command, then every request that a gate held back and that can go on.
-/

namespace ListenDeck

/-- A reply as the script gives it. -/
abbrev PageReply := Except ServerError ItemPage

/-- A place in the queue of replies. -/
inductive ReplySource where
  | ready (reply : PageReply)
  | gate (name : String)
  deriving Repr, Inhabited

/-- A browser whose server answers from a script. -/
structure Rehearsal where
  browser : Browser
  queue : List ReplySource := []
  /-- The gates whose reply is there, with it. -/
  opened : List (String × PageReply) := []
  /-- The requests that stand before a gate. -/
  held : List (Nat × String) := []
  deriving Repr, Inhabited

namespace Rehearsal

/-- What a script can do. -/
inductive Command where
  | event (event : Browser.Event)
  | reply (reply : PageReply)
  | gate (name : String)
  | release (name : String) (reply : PageReply)
  | drop (name : String)
  deriving Repr

/-- What a command led to. -/
structure Result where
  answer : Browser.Answer := .silent
  /-- The requests that waited before and ended now. -/
  completed : List (Nat × Outcome) := []
  effects : List PagerEffect := []
  deriving Repr

/-- The reply behind a gate that was dropped. -/
def droppedReply : PageReply := .error (.network "gate dropped")

/-- The reply a source gives now. -/
def available? (r : Rehearsal) : ReplySource → Option PageReply
  | .ready reply => some reply
  | .gate name => r.opened.lookup name

/-- The next source of the queue, and the rehearsal without it. -/
def takeSource (r : Rehearsal) : ReplySource × Rehearsal :=
  match r.queue with
  | [] => (.ready (.ok {}), r)
  | s :: rest => (s, { r with queue := rest })

/-- An event of the browser. When its request waits for a fetch, the fetch takes its source and, if
the reply is there, goes on; a request fetches at most `fuel` times. -/
def play (r : Rehearsal) : Nat → Browser.Event → Rehearsal × List PagerEffect × Browser.Answer
  | 0, _ => (r, [], .silent)
  | fuel + 1, e =>
    let (b, effects, answer) := r.browser.step e
    let r := { r with browser := b }
    match answer with
    | .waiting request =>
      let (source, r) := r.takeSource
      match r.available? source, source with
      | some reply, _ =>
        let (r, more, answer) := r.play fuel (.reply request reply)
        (r, effects ++ more, answer)
      | none, .gate name => ({ r with held := r.held ++ [(request, name)] }, effects, answer)
      | none, .ready _ => (r, effects, answer)
    | _ => (r, effects, answer)

/-- No request fetches more often than this: the first page, then the one the address bar names. -/
def maxFetches : Nat := 3

/-- Lets the held requests go on whose gate is open, in the order they were made. -/
def resume (r : Rehearsal) (held : List (Nat × String)) :
    Rehearsal × List PagerEffect × List (Nat × Outcome) :=
  match held with
  | [] => (r, [], [])
  | (request, name) :: rest =>
    match r.opened.lookup name with
    | none => resume r rest
    | some reply =>
      let (r, effects, answer) :=
        { r with held := r.held.filter (·.1 ≠ request) }.play maxFetches (.reply request reply)
      let (r, more, completed) := resume r rest
      match answer with
      | .ended n outcome => (r, effects ++ more, (n, outcome) :: completed)
      | _ => (r, effects ++ more, completed)

/-- The gate's reply is there, unless it already was. -/
def openGate (r : Rehearsal) (name : String) (reply : PageReply) : Rehearsal :=
  if (r.opened.lookup name).isSome then r else { r with opened := r.opened ++ [(name, reply)] }

/-- The command itself. -/
def perform (r : Rehearsal) : Command → Rehearsal × List PagerEffect × Browser.Answer
  | .event e => r.play maxFetches e
  | .reply reply => ({ r with queue := r.queue ++ [.ready reply] }, [], .silent)
  | .gate name => ({ r with queue := r.queue ++ [.gate name] }, [], .silent)
  | .release name reply => (r.openGate name reply, [], .silent)
  | .drop name => (r.openGate name droppedReply, [], .silent)

/-- The held requests by their numbers. -/
def byNumber (held : List (Nat × String)) : List (Nat × String) :=
  held.mergeSort fun a b => a.1 ≤ b.1

/-- One command, then every held request that can go on. -/
def step (r : Rehearsal) (c : Command) : Rehearsal × Result :=
  let (r, effects, answer) := r.perform c
  let (r, more, completed) := r.resume (byNumber r.held)
  (r, { answer, completed, effects := effects ++ more })

end Rehearsal

end ListenDeck
