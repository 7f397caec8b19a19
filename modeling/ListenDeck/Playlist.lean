import ListenDeck.Item.Basic

/-!
# Playlists

A playlist as it was fetched, with its tracks in order. The same recording may stand in it more than
once, so a track is removed by its place.

* `Playlist.removeAt`: removes the track at a place, if it is the expected recording.
-/

namespace ListenDeck

/-- A playlist as it was fetched. -/
structure Playlist where
  mbid : String
  title : String := ""
  creator : String := ""
  tracks : List PlaylistTrack := []
  deriving DecidableEq, Repr, Inhabited

namespace Playlist

/-- The track at the place is the recording of that identity. -/
def hasAt (p : Playlist) (index : Nat) (identity : Identity) : Bool :=
  (p.tracks[index]?.map fun t => decide (Identity.recording t.id = identity)).getD false

/-- The playlist without the track at the place, provided that is the expected recording, and
whether it was. -/
def removeAt (p : Playlist) (index : Nat) (identity : Identity) : Playlist × Bool :=
  if p.hasAt index identity then ({ p with tracks := p.tracks.eraseIdx index }, true)
  else (p, false)

end Playlist

end ListenDeck
