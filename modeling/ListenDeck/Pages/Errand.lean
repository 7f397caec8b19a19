import ListenDeck.Server.Call
import ListenDeck.Alerts.Notice

/-!
# Errands

What a page has done for it: a call to the server, with what must be remembered until the answer
comes, or something that concerns the application around the page.

* `Errand`, `Errand.call`: the calls of pages, and what they ask the server.
* `PageEffect`: what a page has done.
-/

namespace ListenDeck

/-- A call to the server, with what must be remembered until the answer comes. -/
inductive Errand where
  /-- The latest listens of a user. -/
  | listens (user : String) (count : Nat)
  /-- What a user thinks of listens that have come. -/
  | scores (user : String) (listens : List Listen)
  /-- A page of pins, with the number of the request it is for. -/
  | page (request : Nat) (user : String) (offset count : Nat)
  | playlist (mbid : String)
  /-- A change to the item of a card, and the grace of the removal it may lead to. -/
  | change (card : Nat) (item : Item) (mutation : Mutation) (grace : Nat)
  deriving DecidableEq, Repr

/-- The ids of the recordings of listens, as far as they have one. -/
def msidsOf (listens : List Listen) : List String :=
  listens.filterMap fun l => (Item.listen l).recordingMsid

/-- What an errand asks the server. -/
def Errand.call : Errand → Call
  | .listens user count => .listens user count
  | .scores user recent => .scores user (msidsOf recent)
  | .page _ user offset count => .pins user offset count
  | .playlist mbid => .playlist mbid
  | .change _ _ mutation _ => .change mutation

/-- What a page has done for it. -/
inductive PageEffect where
  | ask (errand : Errand)
  | notify (notice : Notice)
  /-- The player is asked for an item. -/
  | request (item : Item)
  /-- An item is about to be pinned. -/
  | choose (item : Item)
  /-- The playlist is the one to start with next time. -/
  | remember (mbid : String)
  deriving DecidableEq, Repr

/-- A page after something happened, and what it has done for it, in order. -/
abbrev PageTurn (σ : Type) := σ × List PageEffect

end ListenDeck
