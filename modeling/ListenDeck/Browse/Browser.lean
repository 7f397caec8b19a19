import ListenDeck.Browse.Pager

/-!
# Browsing

A pager together with its address bar and the requests that wait for a reply. Requests are numbered
in the order they are made; replies may come in any order.

* `Browser.Event`: everything that can happen.
* `Browser.step`: the browser after an event, the effects in order, and the answer.
* `Browser.run`: the same for a list of events.
-/

namespace ListenDeck

/-- A pager, its address bar, and the requests that wait for a reply. -/
structure Browser where
  pager : Pager
  bar : AddressBar
  /-- A page parameter that stands in the address bar until the next move. -/
  typed : Option String := none
  /-- The requests that wait, in the order they were made, with their numbers. -/
  waiting : List (Nat × Ticket) := []
  /-- The number of requests so far. -/
  requests : Nat := 0
  deriving Repr, Inhabited

namespace Browser

/-- What can happen to a browser. -/
inductive Event where
  | seed (total : Nat) (items : List Item)
  | «open»
  | goTo (target : Int) (record : Bool)
  | older
  | newer
  | follow
  | remove (identity : Identity)
  | close
  | move (move : AddressBar.Move)
  /-- Somebody writes into the address bar. -/
  | type (parameter : String)
  /-- The reply to the fetch of a request. -/
  | reply (request : Nat) (reply : Except ServerError ItemPage)
  deriving Repr

/-- What an event answers. -/
inductive Answer where
  | silent
  | moved (moved : Bool)
  | removed (removed : Bool)
  | ended (request : Nat) (outcome : Outcome)
  | waiting (request : Nat)
  deriving DecidableEq, Repr

/-- The page parameter in the address bar. -/
def pageText (b : Browser) : Option String := b.typed.or b.bar.pageText

/-- The address bar after an effect. -/
def applyEffect (b : Browser) : PagerEffect → Browser
  | .push page => { b with bar := b.bar.push page, typed := none }
  | _ => b

/-- The browser after a turn of its pager for a request. -/
def afterTurn (b : Browser) (request : Nat) (t : Turn) : Browser × List PagerEffect × Answer :=
  let b := t.effects.foldl applyEffect { b with pager := t.pager }
  match t.progress with
  | .ended outcome => (b, t.effects, .ended request outcome)
  | .waiting ticket =>
    ({ b with waiting := b.waiting ++ [(request, ticket)] }, t.effects, .waiting request)

/-- A request that was just made. -/
def request (b : Browser) (t : Turn) : Browser × List PagerEffect × Answer :=
  ({ b with requests := b.requests + 1 }).afterTurn b.requests t

/-- The browser after an event, the effects in order, and the answer. -/
def step (b : Browser) : Event → Browser × List PagerEffect × Answer
  | .seed total items =>
    let (p, effects) := b.pager.seed total items
    ({ b with pager := p }, effects, .silent)
  | .open => b.request b.pager.open
  | .goTo target record => b.request (b.pager.goTo target record)
  | .older => b.request b.pager.older
  | .newer => b.request b.pager.newer
  | .follow => b.request (b.pager.follow b.pageText)
  | .remove identity =>
    let (p, effects, removed) := b.pager.remove identity
    ({ b with pager := p }, effects, .removed removed)
  | .close => ({ b with pager := b.pager.close }, [], .silent)
  | .move m =>
    let (bar, moved) := b.bar.step m
    ({ b with bar, typed := none }, [], moved.elim .silent .moved)
  | .type parameter => ({ b with typed := some parameter }, [], .silent)
  | .reply request reply =>
    match b.waiting.lookup request with
    | none => (b, [], .silent)
    | some ticket =>
      ({ b with waiting := b.waiting.filter (·.1 ≠ request) }).afterTurn request
        (b.pager.receive b.pageText ticket reply)

/-- The browser after a list of events, with each event's effects and answer. -/
def run : Browser → List Event → Browser × List (List PagerEffect × Answer)
  | b, [] => (b, [])
  | b, e :: rest =>
    let (b, effects, answer) := b.step e
    let (b, log) := run b rest
    (b, (effects, answer) :: log)

end Browser

end ListenDeck
