import ListenDeck.Alerts.Notice
import ListenDeck.Browse.AddressBar
import ListenDeck.Browse.Page
import ListenDeck.Server.Error

/-!
# The pager

A pager shows a long list one page at a time. A request to change the page fetches it and ends when
the reply is applied. Each fetch has a number; only the request that issued the latest fetch may
apply its reply, so a late reply to an older request changes nothing, and none does once the pager
is closed. A page asked for by the user makes an entry in the address bar, a page the address bar
asked for does not.

An operation is a function to a `Turn`: the pager after it, the effects on the world around it in
order, and whether the request ended or waits for the reply to a fetch.

* `Pager.open`, `Pager.goTo`, `Pager.older`, `Pager.newer`, `Pager.follow`: requests.
* `Pager.receive`: the reply to a fetch.
* `Pager.seed`, `Pager.remove`, `Pager.close`: changes without a request.
-/

namespace ListenDeck

/-- What a request ended up doing. -/
inductive Outcome where
  /-- The page was there already, or the button had nothing to do. -/
  | unchanged
  | loaded
  /-- The server has nothing at that place; the page stays. -/
  | empty
  | failed
  /-- The pager was closed, or a newer request took over. -/
  | discarded
  deriving DecidableEq, Repr, Inhabited

/-- What a fetch is for. -/
inductive Aim where
  /-- The first page of a list that is being opened. -/
  | opening
  /-- A page, and whether it makes an entry in the address bar. -/
  | page (target : Nat) (record : Bool)
  deriving DecidableEq, Repr, Inhabited

/-- A fetch without a reply yet. -/
structure Ticket where
  /-- The number of the fetch. -/
  number : Nat
  aim : Aim
  deriving DecidableEq, Repr, Inhabited

/-- What a pager does to the world around it. -/
inductive PagerEffect where
  | fetch (user : String) (offset count : Nat)
  | push (page : Nat)
  | notify (notice : Notice)
  | observe (state : PageState)
  deriving DecidableEq, Repr

/-- How far a request got. -/
inductive Progress where
  | ended (outcome : Outcome)
  | waiting (ticket : Ticket)
  deriving DecidableEq, Repr

/-- What a pager is for. -/
structure PagerConfig where
  user : String
  /-- What the items are called. -/
  label : String
  pageSize : Nat := 25
  deriving DecidableEq, Repr, Inhabited

/-- The configuration with a page size of at least one. -/
def PagerConfig.withPageSize (c : PagerConfig) (n : Nat) : PagerConfig :=
  { c with pageSize := max 1 n }

/-- A list that is shown one page at a time. -/
structure Pager where
  config : PagerConfig
  state : PageState := {}
  /-- The number of fetches so far. -/
  fetches : Nat := 0
  mounted : Bool := true
  /-- Somebody is told of every change. -/
  observed : Bool := false
  deriving Repr, Inhabited

/-- The pager after an operation, its effects in order, and how far the request got. -/
structure Turn where
  pager : Pager
  effects : List PagerEffect := []
  progress : Progress
  deriving Repr

namespace Turn

/-- The turn with effects that came before it. -/
def after (before : List PagerEffect) (t : Turn) : Turn :=
  { t with effects := before ++ t.effects }

end Turn

namespace Pager

/-- Tells the observer of the state. -/
def observation (p : Pager) : List PagerEffect :=
  if p.observed then [.observe p.state] else []

/-- The pager with another state, brought within the pages there are. -/
def withState (p : Pager) (s : PageState) : Pager := { p with state := s.settle }

/-! ## Changes without a request -/

/-- The pager showing the first page of a list. -/
def seeded (p : Pager) (total : Nat) (items : List Item) : Pager :=
  p.withState {
    page := 1
    maxPage := pageCount total p.config.pageSize
    items := items.take p.config.pageSize
    status := .idle }

/-- Shows the first page of a list. -/
def seed (p : Pager) (total : Nat) (items : List Item) : Pager × List PagerEffect :=
  let p := p.seeded total items
  (p, p.observation)

/-- Takes the items of an identity from the page, and answers whether there were any. -/
def remove (p : Pager) (identity : Identity) : Pager × List PagerEffect × Bool :=
  if p.state.items.any (·.identity = identity) then
    let p := p.withState (p.state.without identity)
    (p, p.observation, true)
  else (p, [], false)

/-- Nobody looks at the pager any more: replies on their way are ignored from now on. -/
def close (p : Pager) : Pager := { p with mounted := false, observed := false }

/-! ## Requests -/

/-- Issues a fetch of the page at an offset. -/
def fetch (p : Pager) (aim : Aim) (offset : Nat) : Turn :=
  let p := { p.withState { p.state with status := .loading } with fetches := p.fetches + 1 }
  { pager := p
    effects := p.observation ++ [.fetch p.config.user offset p.config.pageSize]
    progress := .waiting ⟨p.fetches, aim⟩ }

/-- A page number brought within the pages there are. -/
def clampTarget (p : Pager) (target : Int) : Nat :=
  (max 1 (min target p.state.maxPage)).toNat

/-- Where a page starts in the list, at most the greatest number of 32 bits. -/
def offsetOf (p : Pager) (target : Nat) : Nat :=
  min maxPageNumber ((target - 1) * p.config.pageSize)

/-- Asks for a page. -/
def goTo (p : Pager) (target : Int) (record : Bool) : Turn :=
  let target := p.clampTarget target
  if target = p.state.page then { pager := p, progress := .ended .unchanged }
  else if p.mounted then p.fetch (.page target record) (p.offsetOf target)
  else { pager := p, progress := .ended .discarded }

/-- Asks for the next older page. -/
def older (p : Pager) : Turn :=
  if p.state.canGoOlder then p.goTo (p.state.page + 1) true
  else { pager := p, progress := .ended .unchanged }

/-- Asks for the next newer page. -/
def newer (p : Pager) : Turn :=
  if p.state.canGoNewer then p.goTo (p.state.page - 1) true
  else { pager := p, progress := .ended .unchanged }

/-- Asks for the page the address bar names; without one, for the first page. -/
def follow (p : Pager) (parameter : Option String) : Turn :=
  match readPage? parameter with
  | none =>
    if p.state.page = 1 then { pager := p, progress := .ended .unchanged } else p.goTo 1 false
  | some page =>
    if page.toInt = p.state.page then { pager := p, progress := .ended .unchanged }
    else p.goTo page.toInt false

/-- Opens the list: asks for its first page, and follows the address bar when that has come. -/
def «open» (p : Pager) : Turn :=
  if p.mounted then p.fetch .opening 0 else { pager := p, progress := .ended .discarded }

/-! ## Replies -/

/-- The fetch is the latest one, and somebody looks at the pager. -/
def isCurrent (p : Pager) (ticket : Ticket) : Bool := p.mounted && p.fetches = ticket.number

/-- What is said when a page could not be loaded. -/
def failureNotice (p : Pager) (e : ServerError) : Notice where
  kind := .warning
  title := "Could not load " ++ p.config.label
  message :=
    "Something went wrong when we tried to load your " ++ p.config.label ++
      ", please try again or contact us if the problem persists. " ++ e.describe

/-- The latest request failed. -/
def fail (p : Pager) (e : ServerError) : Turn :=
  let notice := p.failureNotice e
  let p := p.withState { p.state with status := .failed }
  { pager := p, effects := .notify notice :: p.observation, progress := .ended .failed }

/-- The page asked for has come. -/
def display (p : Pager) (target : Nat) (record : Bool) (page : ItemPage) : Turn :=
  if page.items.isEmpty then
    let p := p.withState { p.state with status := .idle }
    { pager := p, effects := p.observation, progress := .ended .empty }
  else
    let p := p.withState {
      page := target
      maxPage := max target (pageCount page.total p.config.pageSize)
      items := page.items.take p.config.pageSize
      status := .idle }
    { pager := p
      effects := p.observation ++ if record then [.push target] else []
      progress := .ended .loaded }

/-- The first page has come: the list is open, and the address bar may ask for another page. -/
def displayFirst (p : Pager) (parameter : Option String) (page : ItemPage) : Turn :=
  let (p, effects) := p.seed page.total page.items
  let t := (p.follow parameter).after effects
  if t.progress = .ended .unchanged then { t with progress := .ended .loaded } else t

/-- The reply to a fetch. Only the reply to the latest one counts. -/
def receive (p : Pager) (parameter : Option String) (ticket : Ticket)
    (reply : Except ServerError ItemPage) : Turn :=
  if p.isCurrent ticket then
    match ticket.aim, reply with
    | _, .error e => p.fail e
    | .opening, .ok page => p.displayFirst parameter page
    | .page target record, .ok page => p.display target record page
  else { pager := p, progress := .ended .discarded }

end Pager

end ListenDeck
