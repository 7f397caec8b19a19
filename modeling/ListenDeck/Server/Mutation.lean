import ListenDeck.Item.Basic
import ListenDeck.Item.Score

/-!
# Mutations

The calls that change something on the server. Each carries the token of the user it acts for.

* `Mutation`: what is changed.
* `Mutation.token`: the token it carries.
-/

namespace ListenDeck

/-- A call that changes something on the server. -/
inductive Mutation where
  | submitFeedback (token msid : String) (score : Score)
  | deleteListen (token msid : String) (listenedAt : Int64)
  | deletePin (token : String) (rowId : Int64)
  | removeTrack (token mbid : String) (index : Nat)
  | recommend (user token : String) (what : Recommendation)
  | pin (token : String) (msid mbid blurb : Option String)
  deriving DecidableEq, Repr

/-- The token that a call carries. -/
def Mutation.token : Mutation → String
  | .submitFeedback t _ _ => t
  | .deleteListen t _ _ => t
  | .deletePin t _ => t
  | .removeTrack t _ _ => t
  | .recommend _ t _ => t
  | .pin t _ _ _ => t

end ListenDeck
