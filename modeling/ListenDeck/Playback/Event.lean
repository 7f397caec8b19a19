import ListenDeck.Item.Codec

/-!
# Playback events

What cards and the player tell each other: that an item is played now, or that a card asks for it.

* `PlaybackEvent.toJson`: an object of the event's kind and its item.
* `PlaybackEvent.ofJson?`, `PlaybackEvent.ofValue?`: reading, while the text is read or after all of
  it was.
-/

namespace ListenDeck

/-- A message on the playback bus. -/
inductive PlaybackEvent where
  /-- The player started to play the item. -/
  | nowPlaying (item : Item)
  /-- A card asks the player for the item. -/
  | playRequested (item : Item)
  deriving DecidableEq, Repr

namespace PlaybackEvent

/-- The kinds of events. -/
inductive Kind where
  | nowPlaying
  | playRequested
  deriving DecidableEq, Repr, Inhabited

/-- The name of a kind on the wire. -/
def Kind.name : Kind → String
  | .nowPlaying => "now-playing-changed"
  | .playRequested => "play-requested"

/-- The kind of a name. -/
def Kind.ofName? (s : String) : Option Kind := [nowPlaying, playRequested].find? (·.name == s)

/-- The kind of an event. -/
def kind : PlaybackEvent → Kind
  | .nowPlaying _ => .nowPlaying
  | .playRequested _ => .playRequested

/-- The item of an event. -/
def item : PlaybackEvent → Item
  | .nowPlaying i => i
  | .playRequested i => i

/-- The event of a kind and an item. -/
def of : Kind → Item → PlaybackEvent
  | .nowPlaying, i => .nowPlaying i
  | .playRequested, i => .playRequested i

/-- The event as an object. -/
def toJson (e : PlaybackEvent) : Json :=
  .object [("kind", .string e.kind.name), ("item", e.item.toJson)]

/-- The kind a value names: by its name, or as an object of the name and nothing. -/
def Kind.ofJson? : Json → Option Kind
  | .string s => ofName? s
  | .object [(s, .null)] => ofName? s
  | _ => none

/-- The event of a kind and an item that were read; `held` says that the item was read before its
meaning was known. -/
def ofParts? (held : Bool) (kind item : Json) : Option PlaybackEvent := do
  let k ← Kind.ofJson? kind
  let i ← Item.ofRead? held item
  some (of k i)

/-- The event of a value. The kind and the item may stand in any order, each once; an item before
the kind is held until the kind is known. -/
def ofJson? : Json → Option PlaybackEvent
  | .object fields =>
    match fields.filter fun f => f.1 == "kind" || f.1 == "item" with
    | [("kind", k), ("item", i)] => ofParts? false k i
    | [("item", i), ("kind", k)] => ofParts? true k i
    | _ => none
  | .array [k, i] => ofParts? false k i
  | _ => none

/-- The event of a value that was read as a whole: in an object the item is always held. -/
def ofValue? (j : Json) : Option PlaybackEvent :=
  match j with
  | .object fields =>
    match fields.filter (·.1 == "kind"), fields.filter (·.1 == "item") with
    | [(_, k)], [(_, i)] => ofParts? true k i
    | _, _ => none
  | j => ofJson? j

end PlaybackEvent

end ListenDeck
