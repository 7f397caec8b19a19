/-!
# Items

Anything a card can show and the player can play: a listen, a pinned recording or a track of a
playlist. Two items are the same for the player only if they agree in every part, so equality is
structural; an identity names an item within a list.

* `Item`: the three kinds of items, with their names and ids as functions on all of them.
* `Item.identity`: what tells the items of a list apart.
* `Recommendation.ofItem?`: what can be recommended of an item.
-/

namespace ListenDeck

/-- The ids a recording is known by. -/
structure RecordingIds where
  recordingMsid : Option String := none
  recordingMbid : Option String := none
  artistMsid : Option String := none
  deriving DecidableEq, Repr, Inhabited

/-- The names and ids of a recording. -/
structure TrackMetadata where
  artistName : String := ""
  trackName : String := ""
  releaseName : Option String := none
  ids : RecordingIds := {}
  deriving DecidableEq, Repr, Inhabited

/-- A recording that a user listened to, or listens to now. -/
structure Listen where
  listenedAt : Option Int64 := none
  listenedAtIso : Option String := none
  playingNow : Bool := false
  userName : Option String := none
  track : TrackMetadata
  deriving DecidableEq, Repr, Inhabited

/-- A recording that a user pinned to their profile. -/
structure Pin where
  rowId : Int64
  created : Int64 := 0
  blurb : Option String := none
  recordingMsid : Option String := none
  recordingMbid : Option String := none
  track : TrackMetadata := {}
  deriving DecidableEq, Repr, Inhabited

/-- A track of a playlist; its id is the id of the recording. -/
structure PlaylistTrack where
  id : String
  identifier : String := ""
  title : String := ""
  creator : String := ""
  durationMs : Option UInt64 := none
  addedBy : Option String := none
  addedAt : Option String := none
  deriving DecidableEq, Repr, Inhabited

/-- Anything a card can show and the player can play. -/
inductive Item where
  | listen (listen : Listen)
  | pin (pin : Pin)
  | track (track : PlaylistTrack)
  deriving DecidableEq, Repr, Inhabited

/-- What tells the items of a list apart. -/
inductive Identity where
  | listen (time : Int64) (trackName userName : String)
  | pin (rowId : Int64)
  | recording (id : String)
  deriving DecidableEq, Repr, Inhabited

/-- The text, unless it is empty. -/
def nonEmpty (s : Option String) : Option String := s.filter (· ≠ "")

namespace Item

/-- A listen is told apart by its time, track and user; without time or user by its recording, or
by its track's name if the recording has no id. -/
def identity : Item → Identity
  | .listen l =>
    match l.listenedAt, l.userName with
    | some time, some user => .listen time l.track.trackName user
    | _, _ => .recording (l.track.ids.recordingMsid.getD l.track.trackName)
  | .pin p => .pin p.rowId
  | .track t => .recording t.id

/-- The name of the recording. -/
def trackName : Item → String
  | .listen l => l.track.trackName
  | .pin p => p.track.trackName
  | .track t => t.title

/-- The name of the artist. -/
def artistName : Item → String
  | .listen l => l.track.artistName
  | .pin p => p.track.artistName
  | .track t => t.creator

/-- The name of the release the recording is on. -/
def releaseName : Item → Option String
  | .listen l => l.track.releaseName
  | .pin p => p.track.releaseName
  | .track _ => none

/-- The id that feedback and deletion go by. A pin's own id goes before the one among its track's
ids, and whichever is taken must not be empty. -/
def recordingMsid : Item → Option String
  | .listen l => nonEmpty l.track.ids.recordingMsid
  | .pin p => nonEmpty (p.recordingMsid.or p.track.ids.recordingMsid)
  | .track _ => none

/-- The public id of the recording, chosen like `recordingMsid`. -/
def recordingMbid : Item → Option String
  | .listen l => nonEmpty l.track.ids.recordingMbid
  | .pin p => nonEmpty (p.recordingMbid.or p.track.ids.recordingMbid)
  | .track t => nonEmpty (some t.id)

/-- The id of the artist. -/
def artistMsid : Item → Option String
  | .listen l => l.track.ids.artistMsid
  | .pin p => p.track.ids.artistMsid
  | .track _ => none

/-- When it was listened to, in seconds since 1970. -/
def listenedAt : Item → Option Int64
  | .listen l => l.listenedAt
  | _ => none

/-- Who listened to it. -/
def userName : Item → Option String
  | .listen l => l.userName
  | _ => none

/-- The item is a listen. -/
def isListen : Item → Bool
  | .listen _ => true
  | _ => false

/-- The item is a pin. -/
def isPin : Item → Bool
  | .pin _ => true
  | _ => false

/-- The item is a track of a playlist. -/
def isTrack : Item → Bool
  | .track _ => true
  | _ => false

end Item

/-- What a recommendation to one's followers says. -/
structure Recommendation where
  artistName : String
  trackName : String
  releaseName : Option String
  recordingMbid : Option String
  recordingMsid : String
  artistMsid : Option String
  deriving DecidableEq, Repr, Inhabited

/-- Only an item with an artist, a track and a recording id can be recommended. -/
def Recommendation.ofItem? (item : Item) : Option Recommendation :=
  match item.recordingMsid with
  | none => none
  | some msid =>
    if item.artistName = "" ∨ item.trackName = "" then none
    else some {
      artistName := item.artistName
      trackName := item.trackName
      releaseName := item.releaseName
      recordingMbid := item.recordingMbid
      recordingMsid := msid
      artistMsid := item.artistMsid }

end ListenDeck
