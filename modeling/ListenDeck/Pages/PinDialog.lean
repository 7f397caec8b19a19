import ListenDeck.Actions.Settlement
import ListenDeck.Pages.Errand
import ListenDeck.Session

/-!
# The pin dialog

An item is chosen on some page and pinned to the user's profile with a few words. One pin is on its
way at a time.

* `PinDialog.choose`, `PinDialog.close`: the dialog is opened and closed.
* `PinDialog.submit`: sends the pin.
* `PinDialog.answered`: the reply.
-/

namespace ListenDeck

/-- The dialog for pinning an item. -/
structure PinDialog where
  /-- The item; without one the dialog is closed. -/
  chosen : Option Item := none
  blurb : String := ""
  submitting : Bool := false
  deriving DecidableEq, Repr, Inhabited

namespace PinDialog

/-- What the user can do in the dialog. -/
inductive Message where
  | type (text : String)
  | close
  | submit
  deriving Repr, Inhabited

/-- Opens the dialog for an item. -/
def choose (d : PinDialog) (item : Item) : PinDialog := { d with chosen := some item }

/-- Closes the dialog; the words are forgotten. -/
def close (d : PinDialog) : PinDialog := { d with chosen := none, blurb := "" }

/-- The call that pins an item. -/
def pinOf (token : String) (item : Item) (blurb : String) : Mutation :=
  .pin token item.recordingMsid item.recordingMbid (some blurb)

/-- Sends the pin, if somebody is signed in. -/
def submit (d : PinDialog) (session : Session) : PageTurn PinDialog :=
  match d.chosen, session.token with
  | some item, some token =>
    ({ d with submitting := true }, [.ask (.change 0 item (pinOf token item d.blurb) 0)])
  | _, _ => (d, [])

/-- Something the user does. -/
def update (d : PinDialog) (session : Session) : Message → PageTurn PinDialog
  | .type text => ({ d with blurb := text }, [])
  | .close => (d.close, [])
  | .submit => d.submit session

/-- The reply to a pin: the dialog closes when it was a success. -/
def answered (d : PinDialog) (item : Item) (m : Mutation) (reply : Except ServerError Nat) :
    PageTurn PinDialog :=
  let d := { d with submitting := false }
  let settlement := settle item m reply
  (match settlement with
    | .failed _ => d
    | _ => d.close,
    settlement.notices.map .notify)

end PinDialog

end ListenDeck
