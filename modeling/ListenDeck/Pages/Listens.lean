import ListenDeck.Cards.Message
import ListenDeck.Named
import ListenDeck.Settings.Basic

/-!
# The page of recent listens

The latest listens of the user, with what the user thinks of their recordings. The scores are kept
by recording: first those the server knows, then those it confirmed. A card starts with the score
its recording has when the card is mounted.

* `ListensPage.load`: asks for the listens, then for their scores.
* `ListensPage.update`: a press of a button.
* `ListensPage.listensCame`, `ListensPage.scoresCame`, `ListensPage.changed`: replies.
* `ListensPage.elapse`: removals whose grace is over.
-/

namespace ListenDeck

/-- The latest listens of a user. -/
structure ListensPage where
  user : String
  items : List Item := []
  scores : Scores := []
  loading : Bool := false
  shelf : Shelf Identity := {}
  deriving Repr, Inhabited

namespace ListensPage

/-- What the user can do on the page. -/
inductive Message where
  | refresh
  | card (serial : Nat) (message : CardMessage)
  deriving Repr, Inhabited

/-- The score of an item's recording, neutral if none is known. -/
def scoreOf (scores : Scores) (item : Item) : Score :=
  (item.recordingMsid.bind fun msid => Named.find? msid scores).getD .neutral

/-- The cards of the page. -/
def wanted (p : ListensPage) : List (WantedCard Identity) :=
  p.items.map fun i => { key := i.identity, item := i, score := scoreOf p.scores i }

/-- The page with the cards of its items. -/
def arranged (p : ListensPage) : ListensPage := { p with shelf := p.shelf.arrange p.wanted }

/-- Asks for the listens. -/
def load (p : ListensPage) (settings : Settings) : PageTurn ListensPage :=
  ({ p with loading := true }, [.ask (.listens p.user settings.pageSize.toNat)])

/-- The page when it is opened. -/
def start (user : String) (settings : Settings) : PageTurn ListensPage :=
  ({ user } : ListensPage).load settings

/-- Something the user does. -/
def update (p : ListensPage) (session : Session) (settings : Settings) :
    Message → PageTurn ListensPage
  | .refresh => p.load settings
  | .card serial m =>
    let (shelf, effects) := p.shelf.act session settings.removalGraceMs.toNat .deleteListen serial m
    ({ p with shelf }, effects)

/-- What is said when the listens could not be loaded. -/
def failureNotice (e : ServerError) : Notice := ⟨.warning, "Could not load listens", e.describe⟩

/-- The listens have come, or not. -/
def listensCame (p : ListensPage) : Except ServerError (List Listen) → PageTurn ListensPage
  | .ok listens => (p, [.ask (.scores p.user listens)])
  | .error e => ({ p with loading := false }, [.notify (failureNotice e)])

/-- The scores of listens have come; if not, the ones that are known stay. -/
def scoresCame (p : ListensPage) (listens : List Listen) (reply : Except ServerError Scores) :
    PageTurn ListensPage :=
  let scores := match reply with
    | .ok scores => scores
    | .error _ => p.scores
  ({ p with scores, items := listens.map .listen, loading := false }.arranged, [])

/-- A change to a card's item was answered. -/
def changed (p : ListensPage) (now serial : Nat) (item : Item) (m : Mutation) (grace : Nat)
    (reply : Except ServerError Nat) : PageTurn ListensPage :=
  match p.shelf.receive? now serial item m grace reply with
  | none => (p, [])
  | some (settlement, shelf, effects) =>
    ({ p with shelf
              scores := settlement.heard.foldl (fun l h => Named.put h.1 h.2 l) p.scores }, effects)

/-- The page without the items of an identity. -/
def without (p : ListensPage) (identity : Identity) : ListensPage :=
  { p with items := p.items.filter (·.identity ≠ identity) }.arranged

/-- The grace of the removals that are due is over; one whose card is gone does nothing. -/
def elapse (p : ListensPage) (now : Nat) : ListensPage :=
  let (due, shelf) := p.shelf.due now
  due.foldl (fun p r => if p.shelf.isMounted r.card then p.without r.identity else p)
    { p with shelf }

end ListensPage

end ListenDeck
