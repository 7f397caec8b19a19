import ListenDeck.Text.Numeral

/-!
# Server errors

Why a call to the server failed.

* `ServerError.text`: what happened.
* `ServerError.kind`: the kind of failure in a word.
* `ServerError.describe`: both, as they are shown to the user.
-/

namespace ListenDeck

/-- Why a call to the server failed. -/
inductive ServerError where
  /-- The call did not reach the server or the answer did not come back. -/
  | network (message : String)
  /-- The server refused the call. -/
  | status (code : Nat) (message : String)
  /-- The server accepted the call with another status than expected. -/
  | unexpectedStatus (code : Nat)
  /-- The answer could not be read. -/
  | decode (message : String)
  deriving DecidableEq, Repr, Inhabited

namespace ServerError

/-- The kind of failure in a word. -/
def kind : ServerError → String
  | .network _ => "NetworkError"
  | .status _ _ => "APIError"
  | .unexpectedStatus _ => "APIError"
  | .decode _ => "DecodeError"

/-- What happened. -/
def text : ServerError → String
  | .network m => m
  | .status c m => "server responded with " ++ Text.decimal c ++ ": " ++ m
  | .unexpectedStatus c => "unexpected response status " ++ Text.decimal c
  | .decode m => "could not read server response: " ++ m

/-- The kind of failure and what happened. -/
def describe (e : ServerError) : String := e.kind ++ ": " ++ e.text

end ServerError

end ListenDeck
