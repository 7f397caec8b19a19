import ListenDeck.Actions.Plan
import ListenDeck.Actions.Settlement

/-!
# Shelves of cards

The cards of a list that is shown. Each item has a key. A card whose key stays in the list stays
mounted and keeps what it knows (its marks and its score) while it shows the item that has the key
now; a card whose key leaves the list is gone for good, and with it every removal that waits for it.
The item a card plays is the one it was mounted with.

* `Shelf.arrange`: the cards of a new list.
* `Shelf.play`: what a press of a card's play button does to all cards.
* `Shelf.arm`, `Shelf.due`: removals that wait.
-/

namespace ListenDeck

/-- A card as long as it is mounted. -/
structure MountedCard (κ : Type) where
  key : κ
  /-- The number of the card among all cards of the shelf. -/
  serial : Nat
  /-- The item the card shows. -/
  shown : Item
  /-- The item the card was mounted with. -/
  own : Item
  playing : Bool := false
  deleted : Bool := false
  score : Score := .neutral
  deriving DecidableEq, Repr, Inhabited

/-- A card that a list asks for: its key, its item, and the score it starts with. -/
structure WantedCard (κ : Type) where
  key : κ
  item : Item
  score : Score := .neutral
  deriving DecidableEq, Repr, Inhabited

/-- A confirmed removal of a card's item that waits for its grace. -/
structure CardRemoval where
  /-- The serial number of the card. -/
  card : Nat
  identity : Identity
  /-- The item's place in its list when the removal was asked for. -/
  place : Nat
  deadline : Nat
  deriving DecidableEq, Repr, Inhabited

/-- The cards of a list that is shown. -/
structure Shelf (κ : Type) where
  cards : List (MountedCard κ) := []
  /-- The number of cards mounted so far. -/
  mounted : Nat := 0
  removals : List CardRemoval := []
  deriving DecidableEq, Repr, Inhabited

namespace Shelf

variable {κ : Type}

/-- The card of a serial number. -/
def find? (s : Shelf κ) (serial : Nat) : Option (MountedCard κ) :=
  s.cards.find? (·.serial = serial)

/-- The shelf with the card of a serial number changed. -/
def modify (s : Shelf κ) (serial : Nat) (f : MountedCard κ → MountedCard κ) : Shelf κ :=
  { s with cards := s.cards.map fun c => if c.serial = serial then f c else c }

/-- The card of a serial number is mounted. -/
def isMounted (s : Shelf κ) (serial : Nat) : Bool := s.cards.any (·.serial = serial)

/-! ## Arranging -/

variable [DecidableEq κ]

/-- The cards of a list, taken from the old ones where the key is among them, and the number of
cards mounted then. -/
def arrangeFrom (mounted : Nat) (old : List (MountedCard κ)) :
    List (WantedCard κ) → List (MountedCard κ) × Nat
  | [] => ([], mounted)
  | w :: rest =>
    match old.find? (·.key = w.key) with
    | some c =>
      let (cards, mounted) := arrangeFrom mounted (old.eraseP (·.key = w.key)) rest
      ({ c with shown := w.item } :: cards, mounted)
    | none =>
      let (cards, last) := arrangeFrom (mounted + 1) old rest
      ({ key := w.key, serial := mounted, shown := w.item, own := w.item, score := w.score } ::
        cards, last)

/-- The shelf with the cards of a list. -/
def arrange (s : Shelf κ) (wanted : List (WantedCard κ)) : Shelf κ :=
  let (cards, mounted) := arrangeFrom s.mounted s.cards wanted
  { cards, mounted
    removals := s.removals.filter fun r => cards.any (·.serial = r.card) }

omit [DecidableEq κ]

/-! ## Playing -/

/-- Marks the cards that play an item. -/
def nowPlaying (s : Shelf κ) (item : Item) : Shelf κ :=
  { s with cards := s.cards.map fun c => { c with playing := decide (c.own = item) } }

/-- A press of a card's play button: the item that is asked for, if the card is not playing already,
and the shelf once the player confirmed it. -/
def play (s : Shelf κ) (serial : Nat) : Shelf κ × Option Item :=
  match s.find? serial with
  | some c => if c.playing then (s, none) else (s.nowPlaying c.own, some c.own)
  | none => (s, none)

/-! ## Removals -/

/-- A card is shown as deleted, and its item waits for the grace to be over. -/
def arm (s : Shelf κ) (serial : Nat) (identity : Identity) (place deadline : Nat) : Shelf κ :=
  let s := s.modify serial fun c => { c with deleted := true }
  { s with removals := s.removals ++ [{ card := serial, identity, place, deadline }] }

/-- The removals whose grace is over, the earliest first, and the shelf without them. -/
def due (s : Shelf κ) (now : Nat) : List CardRemoval × Shelf κ :=
  ((s.removals.filter (·.deadline ≤ now)).mergeSort fun a b => a.deadline ≤ b.deadline,
    { s with removals := s.removals.filter (now < ·.deadline) })

end Shelf

end ListenDeck
