import ListenDeck.Playback.Event

/-!
# Messages of the player's window

The player has a dialect of its own: requests go out as an event named `play-listen` with a payload,
confirmations come in as a message of type `current-listen-change` with a payload. Messages in the
form of `PlaybackEvent` are understood too. Only confirmations are ever read, so a request that was
sent never comes back as one.

* `encodePlayRequest`: the message that asks for an item.
* `decodeMessage?`: the confirmation that a message is, if it is one.
-/

namespace ListenDeck

open Json

/-- The name of an outgoing request. -/
def playListenName : String := "play-listen"

/-- The type of an incoming confirmation. -/
def listenChangeName : String := "current-listen-change"

/-- The payload of a request: a listen without its kind, any other item with it. -/
def playPayload : Item → Json
  | .listen l => l.toJson
  | item => item.toJson

/-- The message that asks for an item. -/
def encodePlayRequest (item : Item) : Json :=
  .object [("brainzplayer_event", .string playListenName), ("payload", playPayload item)]

/-- The item of a payload: an item with its kind, or else a listen. -/
def payloadItem? (j : Json) : Option Item :=
  (Item.ofJson? j).or ((Listen.ofJson? j).map .listen)

/-- The confirmation that a message is, if it is one. A message with a type is in the player's
dialect and nothing else. -/
def decodeMessage? (message : Json) : Option PlaybackEvent :=
  match (message.get? "type").bind string? with
  | some type =>
    if type = listenChangeName then
      ((message.get? "payload").bind payloadItem?).map .nowPlaying
    else none
  | none =>
    match PlaybackEvent.ofValue? message with
    | some (.nowPlaying item) => some (.nowPlaying item)
    | _ => none

end ListenDeck
