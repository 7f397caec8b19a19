import ListenDeck.Cards.Shelf
import ListenDeck.Pages.Errand

/-!
# What cards do

A press of one of a card's buttons, and the reply to the call that it led to. A call is planned for
the item the card shows and the score it shows. A reply to a card that is gone counts for nothing.

* `Shelf.act`: a press of a button.
* `Shelf.settle`, `Shelf.receive?`: the reply to a call.
-/

namespace ListenDeck

/-- The buttons of a card. -/
inductive CardMessage where
  | play
  | rate (requested : Score)
  | delete
  | recommend
  | pin
  deriving DecidableEq, Repr, Inhabited

/-- The place in its list of the item that a call removes. -/
def Mutation.place : Mutation → Nat
  | .removeTrack _ _ index => index
  | _ => 0

/-- What a button of a card asks of the card's item; `removal` is what deletion means there. -/
def MountedCard.action? {κ : Type} (c : MountedCard κ) (removal : Action) :
    CardMessage → Option Action
  | .rate requested => some (.giveFeedback c.score requested)
  | .delete => some removal
  | .recommend => some .recommend
  | .play => none
  | .pin => none

/-- The call that a button of a card leads to. -/
def MountedCard.plan? {κ : Type} (c : MountedCard κ) (session : Session) (removal : Action)
    (m : CardMessage) : Option Mutation :=
  (c.action? removal m).bind (session.plan c.shown)

namespace Shelf

variable {κ : Type}

/-- A press of a button of a card, by the user of a session. -/
def act (s : Shelf κ) (session : Session) (grace : Nat) (removal : Action) (serial : Nat)
    (m : CardMessage) : PageTurn (Shelf κ) :=
  match s.find? serial with
  | none => (s, [])
  | some c =>
    match m with
    | .play =>
      let (s, item) := s.play serial
      (s, (item.map PageEffect.request).toList)
    | .pin => (s, [.choose c.shown])
    | m =>
      (s, ((c.plan? session removal m).map fun mutation =>
        .ask (.change serial c.shown mutation grace)).toList)

/-- What a settlement does to the card it is about. -/
def settle (s : Shelf κ) (serial place deadline : Nat) : Settlement → PageTurn (Shelf κ)
  | .scored _ score => (s.modify serial fun c => { c with score }, [])
  | .armed identity => (s.arm serial identity place deadline, [])
  | .announced notice => (s, [.notify notice])
  | .failed notice => (s, [.notify notice])

/-- The reply to a call about a card's item: the settlement, and what it does. There is none if the
card is gone. -/
def receive? (s : Shelf κ) (now serial : Nat) (item : Item) (m : Mutation) (grace : Nat)
    (reply : Except ServerError Nat) : Option (Settlement × PageTurn (Shelf κ)) :=
  if s.isMounted serial then
    let settlement := ListenDeck.settle item m reply
    some (settlement, s.settle serial m.place (now + grace) settlement)
  else none

end Shelf

end ListenDeck
