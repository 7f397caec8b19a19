import ListenDeck.Cards.Message
import ListenDeck.Named
import ListenDeck.Settings.Basic

/-!
# The page of a playlist

A playlist that is opened by its id. The server moves the tracks behind a removed one as soon as it
confirms, and the page does so only after the grace, so the page is locked against further removals
from the press of the button until the track has left the page.

* `trackKeys`: the keys of the tracks, which tell the occurrences of a recording apart.
* `PlaylistPage.load`: asks for a playlist.
* `PlaylistPage.update`: something the user does.
* `PlaylistPage.playlistCame`, `PlaylistPage.changed`: replies.
* `PlaylistPage.elapse`: removals whose grace is over.
-/

namespace ListenDeck

/-- The keys of tracks after those that were seen: the id and the number of the occurrence. -/
def trackKeysFrom (seen : List (String × Nat)) : List PlaylistTrack → List String
  | [] => []
  | t :: rest =>
    let occurrence := (Named.find? t.id seen).getD 0 + 1
    (t.id ++ "#" ++ Text.decimal occurrence) :: trackKeysFrom (Named.put t.id occurrence seen) rest

/-- The keys of tracks: the id and the number of the occurrence. -/
def trackKeys (tracks : List PlaylistTrack) : List String := trackKeysFrom [] tracks

/-- A playlist that is opened by its id. -/
structure PlaylistPage where
  /-- What stands in the field for the id. -/
  field : String := ""
  playlist : Option Playlist := none
  loading : Bool := false
  /-- A removal is under way. -/
  locked : Bool := false
  shelf : Shelf String := {}
  deriving Repr, Inhabited

namespace PlaylistPage

/-- What the user can do on the page. -/
inductive Message where
  | type (text : String)
  | submit
  | card (serial : Nat) (message : CardMessage)
  deriving Repr, Inhabited

/-- The tracks that are shown. -/
def tracks (p : PlaylistPage) : List PlaylistTrack := p.playlist.elim [] (·.tracks)

/-- The cards of the page. -/
def wanted (p : PlaylistPage) : List (WantedCard String) :=
  (trackKeys p.tracks).zipWith (fun key t => { key, item := .track t }) p.tracks

/-- The page with the cards of its tracks. -/
def arranged (p : PlaylistPage) : PlaylistPage := { p with shelf := p.shelf.arrange p.wanted }

/-- Asks for the playlist of a text, unless the text is blank or another playlist is on its way. The
lock is undone. -/
def load (p : PlaylistPage) (text : String) : PageTurn PlaylistPage :=
  let mbid := Text.trim text
  if mbid = "" || p.loading then (p, [])
  else ({ p with loading := true, locked := false }, [.ask (.playlist mbid)])

/-- The page when it is opened: it asks for the playlist that was opened last. -/
def start (settings : Settings) : PageTurn PlaylistPage :=
  let field := settings.lastPlaylist.getD ""
  ({ field } : PlaylistPage).load field

/-- The place of a card among the cards, which is the place of its track. -/
def placeOf (p : PlaylistPage) (serial : Nat) : Nat := p.shelf.cards.findIdx (·.serial = serial)

/-- What the removal of a card's track means. -/
def removal (p : PlaylistPage) (serial : Nat) : Action :=
  .removeTrack (p.playlist.elim "" (·.mbid)) (p.playlist.elim "" (·.creator)) (p.placeOf serial)

/-- A press of the removal button: the page is locked if a call follows. -/
def remove (p : PlaylistPage) (session : Session) (settings : Settings) (serial : Nat) :
    PageTurn PlaylistPage :=
  if p.locked then (p, [])
  else
    let (shelf, effects) :=
      p.shelf.act session settings.removalGraceMs.toNat (p.removal serial) serial .delete
    ({ p with shelf, locked := !effects.isEmpty }, effects)

/-- Something the user does. -/
def update (p : PlaylistPage) (session : Session) (settings : Settings) :
    Message → PageTurn PlaylistPage
  | .type text => ({ p with field := text }, [])
  | .submit => p.load p.field
  | .card serial .delete => p.remove session settings serial
  | .card serial m =>
    let (shelf, effects) :=
      p.shelf.act session settings.removalGraceMs.toNat (p.removal serial) serial m
    ({ p with shelf }, effects)

/-- What is said when the playlist could not be loaded. -/
def failureNotice (e : ServerError) : Notice := ⟨.warning, "Could not load playlist", e.describe⟩

/-- The playlist has come, or not. -/
def playlistCame (p : PlaylistPage) (mbid : String) :
    Except ServerError Playlist → PageTurn PlaylistPage
  | .ok playlist =>
    ({ p with playlist := some playlist, loading := false }.arranged, [.remember mbid])
  | .error e => ({ p with loading := false }, [.notify (failureNotice e)])

/-- A settlement undoes the lock, unless a removal was armed. -/
def lockAfter (locked : Bool) : Settlement → Bool
  | .armed _ => locked
  | _ => false

/-- A change to a card's track was answered. -/
def changed (p : PlaylistPage) (now serial : Nat) (item : Item) (m : Mutation) (grace : Nat)
    (reply : Except ServerError Nat) : PageTurn PlaylistPage :=
  match p.shelf.receive? now serial item m grace reply with
  | none => (p, [])
  | some (settlement, shelf, effects) =>
    ({ p with shelf, locked := lockAfter p.locked settlement }, effects)

/-- The page without the track of a removal, if it is still at its place; the lock is undone. -/
def without (p : PlaylistPage) (r : CardRemoval) : PlaylistPage :=
  { p with
    playlist := p.playlist.map fun l : Playlist => (l.removeAt r.place r.identity).1
    locked := false }.arranged

/-- The grace of the removals that are due is over; one whose card is gone does nothing. -/
def elapse (p : PlaylistPage) (now : Nat) : PlaylistPage :=
  let (due, shelf) := p.shelf.due now
  due.foldl (fun p r => if p.shelf.isMounted r.card then p.without r else p) { p with shelf }

end PlaylistPage

end ListenDeck
