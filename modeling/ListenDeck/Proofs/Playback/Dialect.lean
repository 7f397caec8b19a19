import ListenDeck.Playback.Message
import ListenDeck.Proofs.Item.ReadBack
import ListenDeck.Proofs.Playback.Ledger

/-!
# The player's dialect

Requests go out in the player's dialect and confirmations come back in it, or in the form of
events.

* `PlaybackEvent.ofValue?_toJson`: an event reads back.
* `payloadItem?_playPayload`: so does the payload of a request, with or without its kind.
* `decodeMessage?_ne_request`: no message is read as a request.
* `confirmations_read_back`: what is confirmed is the item that was asked for, and a request never
  comes back.
-/

namespace ListenDeck

open Json

/-- **An event reads back.** -/
theorem PlaybackEvent.ofValue?_toJson (e : PlaybackEvent) : ofValue? e.toJson = some e := by
  have hparts : ofValue? e.toJson = ofParts? true (.string e.kind.name) e.item.toJson := rfl
  have hkind : Kind.ofJson? (.string e.kind.name) = some e.kind := by cases e <;> rfl
  have hof : of e.kind e.item = e := by cases e <;> rfl
  rw [hparts, ofParts?, hkind, Item.ofRead?_toJson]
  simp only [Option.bind_eq_bind, Option.bind_some, hof]

/-- **The payload of a request is the item**: a listen goes without its kind, and is read as one
because it is no item. -/
theorem payloadItem?_playPayload (item : Item) : payloadItem? (playPayload item) = some item := by
  cases item with
  | listen l =>
    rw [playPayload, payloadItem?, Item.ofJson?_listen, Listen.ofJson?_toJson]
    rfl
  | pin p =>
    have hread : Item.ofJson? (Item.pin p).toJson = some (.pin p) := Item.ofRead?_toJson false _
    rw [playPayload, payloadItem?, hread]
    · rfl
    · rintro l ⟨⟩
  | track t =>
    have hread : Item.ofJson? (Item.track t).toJson = some (.track t) := Item.ofRead?_toJson false _
    rw [playPayload, payloadItem?, hread]
    · rfl
    · rintro l ⟨⟩

/-! ## Messages -/

/-- The player's confirmation with a payload. -/
def confirmation (payload : Json) : Json :=
  .object [("type", .string listenChangeName), ("payload", payload)]

theorem decodeMessage?_confirmation (payload : Json) :
    decodeMessage? (confirmation payload) = (payloadItem? payload).map .nowPlaying := rfl

theorem decodeMessage?_of_untyped {message : Json} (h : message.get? "type" = none) :
    decodeMessage? message = match PlaybackEvent.ofValue? message with
      | some (.nowPlaying item) => some (.nowPlaying item)
      | _ => none := by
  rw [decodeMessage?, h]
  rfl

/-- **No message is read as a request.** -/
theorem decodeMessage?_ne_request (message : Json) (item : Item) :
    decodeMessage? message ≠ some (.playRequested item) := by
  unfold decodeMessage?
  split
  · split_ifs
    · rw [Ne, Option.map_eq_some_iff]
      rintro ⟨played, -, heq⟩
      cases heq
    · exact Option.some_ne_none _ ∘ Eq.symm
  · split
    · rintro ⟨⟩
    · rintro ⟨⟩

/-- **What is confirmed is what was asked for, and requests do not come back.** The payload of a
request, sent back as a confirmation, is read as the item being played now, so that exactly the
cards of the item are marked; so is the event that says this; and neither the request nor the event
that asks for the item is read as anything. Nothing at all is read as a request. -/
theorem confirmations_read_back (item : Item) :
    (∃ payload e, (encodePlayRequest item).get? "payload" = some payload ∧
      decodeMessage? (confirmation payload) = some e ∧ e = .nowPlaying item ∧
      ∀ c : Card, (c.heard e).playing = true ↔ c.item = item) ∧
    decodeMessage? (PlaybackEvent.nowPlaying item).toJson = some (.nowPlaying item) ∧
    decodeMessage? (encodePlayRequest item) = none ∧
    decodeMessage? (PlaybackEvent.playRequested item).toJson = none ∧
    ∀ message asked, decodeMessage? message ≠ some (.playRequested asked) := by
  refine ⟨⟨playPayload item, .nowPlaying item, rfl, ?_, rfl, fun c => ?_⟩, ?_, rfl, ?_,
    decodeMessage?_ne_request⟩
  · rw [decodeMessage?_confirmation, payloadItem?_playPayload, Option.map_some]
  · rw [Card.heard, decide_eq_true_eq, eq_comm]
  · rw [decodeMessage?_of_untyped rfl, PlaybackEvent.ofValue?_toJson]
  · rw [decodeMessage?_of_untyped rfl, PlaybackEvent.ofValue?_toJson]

end ListenDeck
