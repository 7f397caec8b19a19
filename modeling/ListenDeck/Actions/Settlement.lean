import ListenDeck.Alerts.Notice
import ListenDeck.Server.Error
import ListenDeck.Server.Mutation

/-!
# Settlements

What the server's reply to a mutation leads to: status 200 brings the effect of the call, anything
else a notice.

* `confirmed`: the reply as success or failure.
* `Mutation.failureNotice`, `pinnedNotice`, `Recommendation.successNotice`: what the user is told.
* `settle`: what the reply leads to.
-/

namespace ListenDeck

/-- The status of a call that was carried out. -/
def statusOk : Nat := 200

/-- A status other than 200 is a failure too. -/
def confirmed : Except ServerError Nat → Except ServerError Unit
  | .error e => .error e
  | .ok status => if status = statusOk then .ok () else .error (.unexpectedStatus status)

/-- The title of the notice of a failed call. -/
def Mutation.failureTitle : Mutation → String
  | .submitFeedback .. => "Error while submitting feedback"
  | .deleteListen .. => "Error while deleting listen"
  | .deletePin .. => "Error while deleting pin"
  | .removeTrack .. => "Error while removing track from playlist"
  | .recommend .. =>
    "We encountered an error when trying to recommend the track to your followers"
  | .pin .. => "Error while pinning track"

/-- Why a call failed. A pin that was accepted with another status than expected is told more
briefly. -/
def Mutation.failureMessage : Mutation → ServerError → String
  | .pin .., .unexpectedStatus code => "unexpected status " ++ Text.decimal code
  | _, e => e.text

/-- What is said of a failed call. -/
def Mutation.failureNotice (m : Mutation) (e : ServerError) : Notice :=
  ⟨.danger, m.failureTitle, m.failureMessage e⟩

/-- What is said of a recommendation that was sent. -/
def Recommendation.successNotice (r : Recommendation) : Notice :=
  ⟨.success, "You recommended a track to your followers!", r.artistName ++ " - " ++ r.trackName⟩

/-- What is said of an item that was pinned. -/
def pinnedNotice (item : Item) : Notice :=
  ⟨.success, "You pinned a recording!", item.artistName ++ " - " ++ item.trackName⟩

/-- What the reply to a call led to. -/
inductive Settlement where
  /-- The recording has that score now. -/
  | scored (msid : String) (score : Score)
  /-- The items of that identity leave the list after a while. -/
  | armed (identity : Identity)
  /-- The user is told that it was done. -/
  | announced (notice : Notice)
  /-- The user is told that it failed. -/
  | failed (notice : Notice)
  deriving DecidableEq, Repr

namespace Settlement

/-- What the user is told. -/
def notices : Settlement → List Notice
  | .announced n => [n]
  | .failed n => [n]
  | _ => []

/-- What a listener for feedback hears. -/
def heard : Settlement → List (String × Score)
  | .scored msid score => [(msid, score)]
  | _ => []

end Settlement

/-- What the reply to a call about an item leads to. -/
def settle (item : Item) (m : Mutation) (reply : Except ServerError Nat) : Settlement :=
  match confirmed reply with
  | .error e => .failed (m.failureNotice e)
  | .ok () =>
    match m with
    | .submitFeedback _ msid score => .scored msid score
    | .recommend _ _ what => .announced what.successNotice
    | .pin .. => .announced (pinnedNotice item)
    | _ => .armed item.identity

end ListenDeck
