import ListenDeck.Browse.Page
import ListenDeck.Item.Codec
import ListenDeck.Playlist
import ListenDeck.Server.Mutation
import ListenDeck.Text.Percent

/-!
# Calls

What can be asked of the server: where each call goes, what it carries and what it brings back.

* `Call`: the calls.
* `Call.path`, `Call.query`, `Call.body`: the call on the wire.
* `Call.Result`: what the answer to a call is about.
-/

namespace ListenDeck

open Text

/-- Something asked of the server. -/
inductive Call where
  /-- A part of the list of a user's pins. -/
  | pins (user : String) (offset count : Nat)
  /-- The latest listens of a user. -/
  | listens (user : String) (count : Nat)
  /-- What a user thinks of some recordings. -/
  | scores (user : String) (msids : List String)
  | playlist (mbid : String)
  | change (mutation : Mutation)
  deriving DecidableEq, Repr

/-- What a user thinks of recordings, by their ids; a recording without a score is not listed. -/
abbrev Scores := List (String × Score)

namespace Call

/-- The segments of the call's path. A name or id is one of them, whatever it holds. -/
def segments : Call → List String
  | .pins user _ _ => [user, "pins"]
  | .listens user _ => ["user", user, "listens"]
  | .scores user _ => ["feedback", "user", user, "get-feedback-for-recordings"]
  | .playlist mbid => ["playlist", mbid]
  | .change m =>
    match m with
    | .submitFeedback .. => ["feedback", "recording-feedback"]
    | .deleteListen .. => ["delete-listen"]
    | .deletePin _ rowId => ["pin", "delete", decimalInt rowId.toInt]
    | .removeTrack _ mbid _ => ["playlist", mbid, "item", "delete"]
    | .recommend user _ _ => ["user", user, "timeline-event", "create", "recording"]
    | .pin .. => ["pin"]

/-- The path of the call, each segment in percent form. -/
def path (c : Call) : String := "/".intercalate (c.segments.map segmentText)

/-- The names and values of the call's query. -/
def query : Call → List (String × String)
  | .pins _ offset count => [("offset", decimal offset), ("count", decimal count)]
  | .listens _ count => [("count", decimal count)]
  | .scores _ msids => [("recording_msids", ",".intercalate msids)]
  | _ => []

/-- The blurb of a pin without the blanks around it, unless it is empty then. -/
def blurbText (blurb : Option String) : Option String := nonEmpty (blurb.map trim)

/-- What the call carries. -/
def body : Call → Option Json
  | .change m =>
    some <| .object <|
      match m with
      | .submitFeedback _ msid score =>
        [("recording_msid", .string msid), ("score", score.toJson)]
      | .deleteListen _ msid time =>
        [("listened_at", Json.ofInt64 time), ("recording_msid", .string msid)]
      | .deletePin .. => []
      | .removeTrack _ _ index => [("index", .int index), ("count", .int 1)]
      | .recommend _ _ what => [("metadata", what.toJson)]
      | .pin _ msid mbid blurb =>
        [("recording_msid", Json.ofOption .string msid),
          ("recording_mbid", Json.ofOption .string mbid),
          ("blurb_content", Json.ofOption .string (blurbText blurb))]
  | _ => none

/-- The token the call carries. -/
def token : Call → Option String
  | .change m => some m.token
  | _ => none

/-- What the answer to a call is about; for a change, the status. -/
def Result : Call → Type
  | .pins .. => ItemPage
  | .listens .. => List Listen
  | .scores .. => Scores
  | .playlist .. => Playlist
  | .change _ => Nat

end Call

end ListenDeck
