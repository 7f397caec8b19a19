import ListenDeck.Actions.Permission
import ListenDeck.Server.Mutation

/-!
# Plans

What the user asks of an item becomes a call to the server, if the user may. Without permission
nothing is sent.

* `Action`: what the user asks of an item.
* `Session.plan`: the call of an action.
-/

namespace ListenDeck

/-- What the user asks of an item. -/
inductive Action where
  | giveFeedback (current requested : Score)
  | deleteListen
  | deletePin (owner : String)
  | removeTrack (mbid owner : String) (index : Nat)
  | recommend
  deriving DecidableEq, Repr

/-- The call of an action on an item, if the user of the session may. -/
def Session.plan (s : Session) (item : Item) : Action → Option Mutation
  | .giveFeedback current requested => do
    let token ← s.token
    let msid ← item.recordingMsid
    some (.submitFeedback token msid (Score.toggled current requested))
  | .deleteListen =>
    if s.canDeleteListen item then do
      let token ← s.token
      let msid ← item.recordingMsid
      let time ← item.listenedAt
      some (.deleteListen token msid time)
    else none
  | .deletePin owner =>
    if s.canDeletePin item owner then
      match item with
      | .pin p => s.token.map fun token => .deletePin token p.rowId
      | _ => none
    else none
  | .removeTrack mbid owner index =>
    if item.isTrack && s.canEditPlaylist owner then
      s.token.map fun token => .removeTrack token mbid index
    else none
  | .recommend => do
    let user ← s.userName
    let token ← s.token
    let what ← Recommendation.ofItem? item
    some (.recommend user token what)

end ListenDeck
