import ListenDeck.Browse.Browser
import ListenDeck.Cards.Message
import ListenDeck.Settings.Basic

/-!
# The page of pins

The pins of a user, one page of them at a time. What is shown is what the browser's pager told last.

* `PinsPage.start`: opens the list.
* `PinsPage.update`: a press of a button.
* `PinsPage.pageCame`, `PinsPage.changed`: replies.
* `PinsPage.elapse`: removals whose grace is over.
-/

namespace ListenDeck

/-- The pins of a user. -/
structure PinsPage where
  user : String
  browser : Browser
  /-- The page as the pager told it last. -/
  told : PageState := {}
  shelf : Shelf Identity := {}
  deriving Repr, Inhabited

namespace PinsPage

/-- What the user can do on the page. -/
inductive Message where
  | older
  | newer
  | card (serial : Nat) (message : CardMessage)
  deriving Repr, Inhabited

/-- The cards of the page. -/
def wanted (p : PinsPage) : List (WantedCard Identity) :=
  p.told.items.map fun i => { key := i.identity, item := i }

/-- The page with the cards of its items. -/
def arranged (p : PinsPage) : PinsPage := { p with shelf := p.shelf.arrange p.wanted }

/-- What the effects of an event do to the page: it shows what it was told last. -/
def hear (p : PinsPage) (effects : List PagerEffect) : PinsPage :=
  let told := effects.foldl (fun told e => match e with
    | .observe s => s
    | _ => told) p.told
  { p with told }.arranged

/-- What the page has done for an effect of its browser, for the request that waits. -/
def effectOf (answer : Browser.Answer) : PagerEffect → Option PageEffect
  | .fetch user offset count =>
    match answer with
    | .waiting request => some (.ask (.page request user offset count))
    | _ => none
  | .notify notice => some (.notify notice)
  | _ => none

/-- An event of the browser. -/
def browse (p : PinsPage) (e : Browser.Event) : PageTurn PinsPage :=
  let (browser, effects, answer) := p.browser.step e
  ({ p with browser }.hear effects, effects.filterMap (effectOf answer))

/-- The page when it is opened. -/
def start (user : String) (settings : Settings) : PageTurn PinsPage :=
  let config : PagerConfig :=
    PagerConfig.withPageSize { user, label := "pinned recordings" } settings.pageSize.toNat
  let browser : Browser := { pager := { config, observed := true }, bar := .start none }
  ({ user, browser } : PinsPage).browse .open

/-- Something the user does. -/
def update (p : PinsPage) (session : Session) (settings : Settings) : Message → PageTurn PinsPage
  | .older => p.browse .older
  | .newer => p.browse .newer
  | .card serial m =>
    let (shelf, effects) :=
      p.shelf.act session settings.removalGraceMs.toNat (.deletePin p.user) serial m
    ({ p with shelf }, effects)

/-- A page of pins has come, or not. -/
def pageCame (p : PinsPage) (request : Nat) (reply : Except ServerError ItemPage) :
    PageTurn PinsPage := p.browse (.reply request reply)

/-- A change to a card's item was answered. -/
def changed (p : PinsPage) (now serial : Nat) (item : Item) (m : Mutation) (grace : Nat)
    (reply : Except ServerError Nat) : PageTurn PinsPage :=
  match p.shelf.receive? now serial item m grace reply with
  | none => (p, [])
  | some (_, shelf, effects) => ({ p with shelf }, effects)

/-- The grace of the removals that are due is over; one whose card is gone does nothing. -/
def elapse (p : PinsPage) (now : Nat) : PinsPage :=
  let (due, shelf) := p.shelf.due now
  due.foldl (fun p r =>
    if p.shelf.isMounted r.card then (p.browse (.remove r.identity)).1 else p) { p with shelf }

end PinsPage

end ListenDeck
