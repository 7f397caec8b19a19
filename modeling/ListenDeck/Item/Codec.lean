import ListenDeck.Item.Basic
import ListenDeck.Json.Record

/-!
# The wire form of items

Each record is written with the fields that always appear first to last and with its optional
fields only when they have a value; it is read by the rules of `Json.Record`. An item carries its
kind in the field `type`, which may stand anywhere among the others, or is an array of the kind and
the fields.

* `Listen.toJson`, `Pin.toJson`, `PlaylistTrack.toJson`, `Item.toJson`: writing.
* `Listen.ofJson?`, `Pin.ofJson?`, `PlaylistTrack.ofJson?`, `Item.ofJson?`: reading.
-/

namespace ListenDeck

open Json

/-! ## Records -/

namespace RecordingIds

/-- The fields on the wire, in their order. -/
def fieldNames : List String := ["recording_msid", "recording_mbid", "artist_msid"]

/-- The ids as an object. -/
def toJson (a : RecordingIds) : Json :=
  .object <| fieldIfSome "recording_msid" .string a.recordingMsid ++
    fieldIfSome "recording_mbid" .string a.recordingMbid ++
    fieldIfSome "artist_msid" .string a.artistMsid

/-- The ids of a record. -/
def ofJson? (j : Json) : Option RecordingIds :=
  if j.isRecord fieldNames then do
    let recordingMsid ← optional string? (j.slot 0 "recording_msid")
    let recordingMbid ← optional string? (j.slot 1 "recording_mbid")
    let artistMsid ← optional string? (j.slot 2 "artist_msid")
    some { recordingMsid, recordingMbid, artistMsid }
  else none

end RecordingIds

namespace TrackMetadata

/-- The fields on the wire, in their order. -/
def fieldNames : List String := ["artist_name", "track_name", "release_name", "additional_info"]

/-- The metadata as an object. -/
def toJson (t : TrackMetadata) : Json :=
  .object <| [("artist_name", .string t.artistName), ("track_name", .string t.trackName)] ++
    fieldIfSome "release_name" .string t.releaseName ++ [("additional_info", t.ids.toJson)]

/-- The metadata of a record. -/
def ofJson? (j : Json) : Option TrackMetadata :=
  if j.isRecord fieldNames then do
    let artistName ← withDefault "" string? (j.slot 0 "artist_name")
    let trackName ← withDefault "" string? (j.slot 1 "track_name")
    let releaseName ← optional string? (j.slot 2 "release_name")
    let ids ← withDefault {} RecordingIds.ofJson? (j.slot 3 "additional_info")
    some { artistName, trackName, releaseName, ids }
  else none

end TrackMetadata

namespace Listen

/-- The fields on the wire, in their order. -/
def fieldNames : List String :=
  ["listened_at", "listened_at_iso", "playing_now", "user_name", "track_metadata"]

/-- The fields as they are written. -/
def toFields (l : Listen) : List (String × Json) :=
  fieldIfSome "listened_at" ofInt64 l.listenedAt ++
    fieldIfSome "listened_at_iso" .string l.listenedAtIso ++
    [("playing_now", .bool l.playingNow)] ++
    fieldIfSome "user_name" .string l.userName ++ [("track_metadata", l.track.toJson)]

/-- The listen as an object. -/
def toJson (l : Listen) : Json := .object l.toFields

/-- The listen of a record. -/
def ofJson? (j : Json) : Option Listen :=
  if j.isRecord fieldNames then do
    let listenedAt ← optional int64? (j.slot 0 "listened_at")
    let listenedAtIso ← optional string? (j.slot 1 "listened_at_iso")
    let playingNow ← withDefault false bool? (j.slot 2 "playing_now")
    let userName ← optional string? (j.slot 3 "user_name")
    let track ← required TrackMetadata.ofJson? (j.slot 4 "track_metadata")
    some { listenedAt, listenedAtIso, playingNow, userName, track }
  else none

end Listen

namespace Pin

/-- The fields on the wire, in their order. -/
def fieldNames : List String :=
  ["row_id", "created", "blurb_content", "recording_msid", "recording_mbid", "track_metadata"]

/-- The fields as they are written. -/
def toFields (p : Pin) : List (String × Json) :=
  [("row_id", ofInt64 p.rowId), ("created", ofInt64 p.created)] ++
    fieldIfSome "blurb_content" .string p.blurb ++
    fieldIfSome "recording_msid" .string p.recordingMsid ++
    fieldIfSome "recording_mbid" .string p.recordingMbid ++ [("track_metadata", p.track.toJson)]

/-- The pin as an object. -/
def toJson (p : Pin) : Json := .object p.toFields

/-- The pin of a record. -/
def ofJson? (j : Json) : Option Pin :=
  if j.isRecord fieldNames then do
    let rowId ← required int64? (j.slot 0 "row_id")
    let created ← withDefault 0 int64? (j.slot 1 "created")
    let blurb ← optional string? (j.slot 2 "blurb_content")
    let recordingMsid ← optional string? (j.slot 3 "recording_msid")
    let recordingMbid ← optional string? (j.slot 4 "recording_mbid")
    let track ← withDefault {} TrackMetadata.ofJson? (j.slot 5 "track_metadata")
    some { rowId, created, blurb, recordingMsid, recordingMbid, track }
  else none

end Pin

namespace PlaylistTrack

/-- The fields on the wire, in their order. -/
def fieldNames : List String :=
  ["id", "identifier", "title", "creator", "duration_ms", "added_by", "added_at"]

/-- The fields as they are written. -/
def toFields (t : PlaylistTrack) : List (String × Json) :=
  [("id", .string t.id), ("identifier", .string t.identifier), ("title", .string t.title),
      ("creator", .string t.creator)] ++
    fieldIfSome "duration_ms" ofUInt64 t.durationMs ++
    fieldIfSome "added_by" .string t.addedBy ++ fieldIfSome "added_at" .string t.addedAt

/-- The track as an object. -/
def toJson (t : PlaylistTrack) : Json := .object t.toFields

/-- The track of a record. -/
def ofJson? (j : Json) : Option PlaylistTrack :=
  if j.isRecord fieldNames then do
    let id ← required string? (j.slot 0 "id")
    let identifier ← withDefault "" string? (j.slot 1 "identifier")
    let title ← withDefault "" string? (j.slot 2 "title")
    let creator ← withDefault "" string? (j.slot 3 "creator")
    let durationMs ← optional uint64? (j.slot 4 "duration_ms")
    let addedBy ← optional string? (j.slot 5 "added_by")
    let addedAt ← optional string? (j.slot 6 "added_at")
    some { id, identifier, title, creator, durationMs, addedBy, addedAt }
  else none

end PlaylistTrack

/-! ## Items -/

/-- The kinds of items. -/
inductive ItemKind where
  | listen
  | pin
  | track
  deriving DecidableEq, Repr

namespace ItemKind

/-- The name of a kind on the wire. -/
def name : ItemKind → String
  | .listen => "listen"
  | .pin => "pinned_recording"
  | .track => "playlist_track"

/-- The kind of a name. -/
def ofName? (s : String) : Option ItemKind :=
  [listen, pin, track].find? (·.name == s)

/-- The kind of its place in the order of kinds. -/
def ofPlace? : Int → Option ItemKind
  | 0 => some .listen
  | 1 => some .pin
  | 2 => some .track
  | _ => none

/-- The kind a value names. Inside a value that was read before its meaning was known (`held`), a
kind may also be given by its place. -/
def ofJson? (held : Bool) : Json → Option ItemKind
  | .string s => ofName? s
  | .int n => if held then ofPlace? n else none
  | _ => none

end ItemKind

namespace Item

/-- The item as an object: its kind, then its fields. -/
def toJson : Item → Json
  | .listen l => .object (("type", .string ItemKind.listen.name) :: l.toFields)
  | .pin p => .object (("type", .string ItemKind.pin.name) :: p.toFields)
  | .track t => .object (("type", .string ItemKind.track.name) :: t.toFields)

/-- The item of a kind that a record describes. -/
def ofRecord? : ItemKind → Json → Option Item
  | .listen, j => (Listen.ofJson? j).map .listen
  | .pin, j => (Pin.ofJson? j).map .pin
  | .track, j => (PlaylistTrack.ofJson? j).map .track

/-- The kind an object or array names, and the record without it. An object names its kind once. -/
def split? : Json → Option (Json × Json)
  | .object fields =>
    match fields.filter (·.1 == "type") with
    | [(_, kind)] => some (kind, .object (fields.filter (·.1 != "type")))
    | _ => none
  | .array (kind :: rest) => some (kind, .array rest)
  | _ => none

/-- The item of a value of which all was read before its kind was known. If that was already done
with a larger value around it (`held`), the kind may also be given by its place. -/
def ofRead? (held : Bool) (j : Json) : Option Item :=
  if j.readable then
    match split? j with
    | none => none
    | some (kind, record) => (ItemKind.ofJson? held kind).bind fun k => ofRecord? k record
  else none

/-- The item of a value. -/
def ofJson? (j : Json) : Option Item := ofRead? false j

end Item

/-- What a recommendation says, as an object. -/
def Recommendation.toJson (r : Recommendation) : Json :=
  .object <| [("artist_name", .string r.artistName), ("track_name", .string r.trackName)] ++
    fieldIfSome "release_name" .string r.releaseName ++
    fieldIfSome "recording_mbid" .string r.recordingMbid ++
    [("recording_msid", .string r.recordingMsid)] ++
    fieldIfSome "artist_msid" .string r.artistMsid

end ListenDeck
