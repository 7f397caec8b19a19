import ListenDeck.Json.Reader
import ListenDeck.Named
import ListenDeck.Server.Call
import ListenDeck.Server.Count
import ListenDeck.Server.Error
import ListenDeck.Server.Reason
import ListenDeck.Text.Split
import ListenDeck.Text.Utf8

/-!
# Answers

How the server's answers are read. A status from 200 to 299 is a success, and then the body must
have the form of the call's result. Any other status is a refusal, for which the body may give a
reason.

* `readPins?`, `readListens?`, `readScores?`, `readPlaylist?`: the forms of the results.
* `refusalMessage`: why a call was refused.
* `Call.read`: the result of an answered call.
-/

namespace ListenDeck

open Json

namespace Server

/-! ## Forms -/

/-- A part of a list of pins. -/
def readPins? (j : Json) : Option ItemPage :=
  if j.isRecord ["pinned_recordings", "total_count"] then do
    let pins ← withDefault [] (list? Pin.ofJson?) (j.slot 0 "pinned_recordings")
    let total ← readTotal? (j.slot 1 "total_count")
    some { items := pins.map .pin, total := total.toNat }
  else none

/-- A list of listens, one record deeper than it might be. -/
def readListens? (j : Json) : Option (List Listen) :=
  if j.isRecord ["payload"] then
    required (fun payload =>
      if payload.isRecord ["listens"] then
        withDefault [] (list? Listen.ofJson?) (payload.slot 0 "listens")
      else none) (j.slot 0 "payload")
  else none

/-- The score of a recording, which may go without an id. -/
def readScore? (j : Json) : Option (Option String × Score) :=
  if j.isRecord ["recording_msid", "score"] then do
    let msid ← optional string? (j.slot 0 "recording_msid")
    let score ← required Score.ofJson? (j.slot 1 "score")
    some (msid, score)
  else none

/-- The scores of recordings; the last one of a recording counts, and one without a recording does
not. -/
def readScores? (j : Json) : Option Scores :=
  if j.isRecord ["feedback"] then do
    let entries ← withDefault [] (list? readScore?) (j.slot 0 "feedback")
    some (Named.ofPairs (entries.filterMap fun e => e.1.map fun msid => (msid, e.2)))
  else none

/-- The name of the extension that says who added a track. -/
def trackExtension : String := "https://musicbrainz.org/doc/jspf#track"

/-- The fields of an object that is read as a whole, the last of equal ones. -/
def wholeFields? (j : Json) : Option Json :=
  match j with
  | .object _ => if j.readable then some j.lastWins else none
  | _ => none

/-- The id at the end of an address. -/
def lastSegment (s : String) : String :=
  String.ofList (Text.cutAtLast (· == '/') (Text.dropEndSlashes s).toList).2

/-- A track of a playlist. Its id is the end of its identifier, and an extension says who added it
and when. -/
def readTrack? (j : Json) : Option PlaylistTrack :=
  if j.isRecord ["identifier", "title", "creator", "duration", "extension"] then do
    let identifier ← withDefault "" string? (j.slot 0 "identifier")
    let title ← withDefault "" string? (j.slot 1 "title")
    let creator ← withDefault "" string? (j.slot 2 "creator")
    let durationMs ← optional uint64? (j.slot 3 "duration")
    let extension ← withDefault (.object []) wholeFields? (j.slot 4 "extension")
    let added (name : String) : Option String :=
      ((extension.get? trackExtension).bind (·.get? name)).bind string?
    some {
      id := lastSegment identifier
      identifier, title, creator, durationMs
      addedBy := added "added_by"
      addedAt := added "added_at" }
  else none

/-- A playlist, which is known by the id it was asked for by. -/
def readPlaylist? (mbid : String) (j : Json) : Option Playlist :=
  if j.isRecord ["playlist"] then
    required (fun p =>
      if p.isRecord ["title", "creator", "track"] then do
        let title ← withDefault "" string? (p.slot 0 "title")
        let creator ← withDefault "" string? (p.slot 1 "creator")
        let tracks ← withDefault [] (list? readTrack?) (p.slot 2 "track")
        some { mbid, title, creator, tracks }
      else none) (j.slot 0 "playlist")
  else none

/-! ## Refusals -/

/-- The reason a body gives. -/
def readReason? (j : Json) : Option String :=
  if j.isRecord ["error"] then (optional string? (j.slot 0 "error")).join else none

/-- Why a call was refused: the body's reason, or the phrase of the status. -/
def refusalMessage (status : Nat) (body : List UInt8) : String :=
  (((Json.parse? (Text.readUtf8Lossy body)).bind readReason?).or (reasonPhrase? status)).getD
    "Unknown error"

/-- The status is one of success. -/
def isSuccess (status : Nat) : Bool := 200 ≤ status && status < 300

/-- What is said of a body that cannot be read. -/
def unreadableBody : ServerError := .decode "error decoding response body"

/-- The value of a body. -/
def readBody {α : Type} (read : Json → Option α) (body : List UInt8) : Except ServerError α :=
  match ((Text.readUtf8? body).bind Json.parse?).bind read with
  | some a => .ok a
  | none => .error unreadableBody

end Server

open Server

/-- The result of a call that succeeded with a status and a body. -/
def Call.read (status : Nat) (body : List UInt8) : (c : Call) → Except ServerError c.Result
  | .pins .. => readBody readPins? body
  | .listens .. => readBody readListens? body
  | .scores .. => readBody readScores? body
  | .playlist mbid => readBody (readPlaylist? mbid) body
  | .change _ => .ok status

end ListenDeck
