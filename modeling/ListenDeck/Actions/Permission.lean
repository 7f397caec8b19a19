import ListenDeck.Item.Basic
import ListenDeck.Session

/-!
# Permissions

What the user of a session may do with an item. Every change needs a token; one's own listens, pins
and playlists can be changed by nobody else.

* `Session.canGiveFeedback`, `Session.canDeleteListen`, `Session.canDeletePin`,
  `Session.canEditPlaylist`, `Session.canRecommend`, `Session.canPin`.
-/

namespace ListenDeck.Session

/-- The user may say what they think of the item. -/
def canGiveFeedback (s : Session) (item : Item) : Bool :=
  s.token.isSome && item.recordingMsid.isSome

/-- The item is a listen of the user that the server can find. -/
def canDeleteListen (s : Session) (item : Item) : Bool :=
  item.isListen && s.token.isSome && s.isUser item.userName && item.listenedAt.isSome &&
    item.recordingMsid.isSome

/-- The item is a pin on a page of the user. -/
def canDeletePin (s : Session) (item : Item) (owner : String) : Bool :=
  item.isPin && s.token.isSome && s.isUser (some owner)

/-- The playlist is the user's. -/
def canEditPlaylist (s : Session) (owner : String) : Bool :=
  s.token.isSome && s.isUser (some owner)

/-- The item can be recommended to the user's followers. -/
def canRecommend (s : Session) (item : Item) : Bool :=
  s.token.isSome && (Recommendation.ofItem? item).isSome

/-- The item can be pinned to the user's profile. -/
def canPin (s : Session) (item : Item) : Bool :=
  s.token.isSome && item.recordingMsid.isSome

end ListenDeck.Session
