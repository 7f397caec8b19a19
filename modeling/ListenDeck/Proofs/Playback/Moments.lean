import ListenDeck.Proofs.Playback.Reach

/-!
# The moments of a deck

All decks there are between the beginning of a run and its end, also in the middle of a delivery, at
any depth, and also in a delivery that never comes to its end.

* `Deck.Change`, `Deck.Passage`: the smallest changes of a deck, one after the other, with the
  numbers that subscribers are given on the way.
* `Deck.AmidDelivery`, `Deck.AmidReactions`, `Deck.Amid`: the decks that occur while an event is
  delivered, while a handler reacts, and while steps are taken by hand.
* `Deck.Amid.passage`: every deck that occurs is reached by small changes.
-/

namespace ListenDeck.Deck

/-! ## Small changes -/

/-- **The smallest changes of a deck**, with the numbers of new subscriptions. -/
inductive Change (d : Deck) : List Nat → Deck → Prop where
  | subscribe (name : String) (reactions : List Reaction) :
      Change d [(d.bus.subscribe (.program name reactions)).2] (d.subscribe name reactions)
  | mount (card : String) (item : Item) (onFlip : List Reaction) :
      Change d [(d.bus.subscribe (.card card item onFlip)).2] (d.mount card item onFlip)
  | unsubscribe (name : String) : Change d [] (d.unsubscribe name)
  | drop (name : String) : Change d [] (d.drop name).1
  | unmount (card : String) : Change d [] (d.unmount card)
  | dropCard (card : String) : Change d [] (d.dropCard card).1
  | dropBus : Change d [] { d with held := false }
  /-- A handler is reached by an event. -/
  | opening (id : Nat) (event : PlaybackEvent) (handler : Handler) :
      Change d [] (d.opening id event handler).1
  /-- A reaction uses up one of its times. -/
  | use (id place : Nat) : Change d [] (d.use id place)
  /-- The log begins anew. -/
  | forget : Change d [] { d with log := [] }

/-- **Changes one after the other**, with the numbers of the subscriptions made on the way. -/
inductive Passage (d : Deck) : List Nat → Deck → Prop where
  | refl : Passage d [] d
  | step {given new : List Nat} {m m' : Deck} (h : Passage d given m) (hc : m.Change new m') :
      Passage d (given ++ new) m'

section Passage
variable {d m m' : Deck} {given : List Nat}

theorem Passage.still (h : d.Passage given m) (hc : m.Change [] m') : d.Passage given m' := by
  have hp := h.step hc
  rwa [List.append_nil] at hp

theorem Passage.alter (h : d.Passage given m) (ha : m.Alters m') :
    ∃ given', d.Passage given' m' := by
  cases ha with
  | same => exact ⟨_, h⟩
  | subscribe name reactions => exact ⟨_, h.step (.subscribe name reactions)⟩
  | unsubscribe name => exact ⟨_, h.step (.unsubscribe name)⟩
  | drop name => exact ⟨_, h.step (.drop name)⟩
  | mount card item onFlip => exact ⟨_, h.step (.mount card item onFlip)⟩
  | unmount card => exact ⟨_, h.step (.unmount card)⟩
  | dropCard card => exact ⟨_, h.step (.dropCard card)⟩
  | dropBus => exact ⟨_, h.step .dropBus⟩

end Passage

/-! ## What occurs on the way -/

mutual

/-- **A deck that occurs while an event is delivered** to a list of handlers. The delivery need not
come to its end. -/
inductive AmidDelivery : PlaybackEvent → List (Nat × Handler) → Deck → Deck → Prop where
  | here {e : PlaybackEvent} {handlers : List (Nat × Handler)} {d : Deck} :
      AmidDelivery e handlers d d
  | passed {e : PlaybackEvent} {id : Nat} {h : Handler} {rest : List (Nat × Handler)} {d m : Deck}
      (hr : d.bus.isRegistered id = false) (ht : AmidDelivery e rest d m) :
      AmidDelivery e ((id, h) :: rest) d m
  | inside {e : PlaybackEvent} {id : Nat} {h : Handler} {rest : List (Nat × Handler)} {d m : Deck}
      (hr : d.bus.isRegistered id = true)
      (hd : AmidReactions id e 0 (d.opening id e h).2 (d.opening id e h).1 m) :
      AmidDelivery e ((id, h) :: rest) d m
  | reached {e : PlaybackEvent} {id : Nat} {h : Handler} {rest : List (Nat × Handler)}
      {d d₁ m : Deck} {deeds : Deeds} (hr : d.bus.isRegistered id = true)
      (hd : Reacted id e 0 (d.opening id e h).2 (d.opening id e h).1 deeds d₁)
      (ht : AmidDelivery e rest d₁ m) : AmidDelivery e ((id, h) :: rest) d m

/-- **A deck that occurs while a handler reacts**, from a place of its reactions on. -/
inductive AmidReactions : Nat → PlaybackEvent → Nat → List Reaction → Deck → Deck → Prop where
  | here {id : Nat} {e : PlaybackEvent} {place : Nat} {reactions : List Reaction} {d : Deck} :
      AmidReactions id e place reactions d d
  | idle {id : Nat} {e : PlaybackEvent} {place : Nat} {r : Reaction} {rest : List Reaction}
      {d m : Deck} (hr : d.runs id e place r = false)
      (ht : AmidReactions id e (place + 1) rest d m) :
      AmidReactions id e place (r :: rest) d m
  | used {id : Nat} {e : PlaybackEvent} {place : Nat} {r : Reaction} {rest : List Reaction}
      {d : Deck} (hr : d.runs id e place r = true) :
      AmidReactions id e place (r :: rest) d (d.use id place)
  | quiet {id : Nat} {e : PlaybackEvent} {place : Nat} {r : Reaction} {rest : List Reaction}
      {d d₁ m : Deck} (hr : d.runs id e place r = true)
      (hp : published? (some e) (d.use id place) r.step = none)
      (hs : (settled (some e) (d.use id place) r.step).1 = d₁)
      (ht : AmidReactions id e (place + 1) rest d₁ m) :
      AmidReactions id e place (r :: rest) d m
  | inside {id : Nat} {e : PlaybackEvent} {place : Nat} {r : Reaction} {rest : List Reaction}
      {d m : Deck} {e' : PlaybackEvent} (hr : d.runs id e place r = true)
      (hp : published? (some e) (d.use id place) r.step = some e')
      (hd : AmidDelivery e' d.bus.handlers (d.use id place) m) :
      AmidReactions id e place (r :: rest) d m
  | round {id : Nat} {e : PlaybackEvent} {place : Nat} {r : Reaction} {rest : List Reaction}
      {d d₁ m : Deck} {e' : PlaybackEvent} {slots : Slots} (hr : d.runs id e place r = true)
      (hp : published? (some e) (d.use id place) r.step = some e')
      (hd : Delivered e' d.bus.handlers (d.use id place) slots d₁)
      (ht : AmidReactions id e (place + 1) rest d₁ m) :
      AmidReactions id e place (r :: rest) d m

end

/-- **A deck that occurs while steps are taken by hand**, between them or in the middle of one. -/
inductive Amid : List Step → Deck → Deck → Prop where
  | here {steps : List Step} {d : Deck} : Amid steps d d
  | quiet {s : Step} {rest : List Step} {d d₁ m : Deck}
      (hp : published? none { d with log := [] } s = none)
      (hs : (settled none { d with log := [] } s).1 = d₁) (ht : Amid rest d₁ m) :
      Amid (s :: rest) d m
  | inside {s : Step} {rest : List Step} {d m : Deck} {e : PlaybackEvent}
      (hp : published? none { d with log := [] } s = some e)
      (hd : AmidDelivery e d.bus.handlers { d with log := [] } m) : Amid (s :: rest) d m
  | round {s : Step} {rest : List Step} {d d₁ m : Deck} {e : PlaybackEvent} {slots : Slots}
      (hp : published? none { d with log := [] } s = some e)
      (hd : Delivered e d.bus.handlers { d with log := [] } slots d₁) (ht : Amid rest d₁ m) :
      Amid (s :: rest) d m

theorem Played.amid {steps : List Step} {d d' : Deck} {deeds : Deeds}
    (h : Played steps d deeds d') : Amid steps d d' := by
  induction h with
  | nil => exact .here
  | quiet hp hs _ ih => exact .quiet hp hs ih
  | round hp hd _ ih => exact .round hp hd ih

/-! ## Every deck that occurs is reached by small changes -/

section Passages
variable {start : Deck}

mutual

theorem passage_of_delivered {e : PlaybackEvent} {handlers : List (Nat × Handler)} {d d' : Deck}
    {slots : Slots} {given : List Nat} (hp : start.Passage given d) :
    Delivered e handlers d slots d' → ∃ given', start.Passage given' d'
  | .done => ⟨_, hp⟩
  | .passed _ ht => passage_of_delivered hp ht
  | .reached _ hd ht => by
    obtain ⟨_, h₁⟩ := passage_of_reacted (hp.still (.opening _ _ _)) hd
    exact passage_of_delivered h₁ ht

theorem passage_of_reacted {id : Nat} {e : PlaybackEvent} {place : Nat} {reactions : List Reaction}
    {d d' : Deck} {deeds : Deeds} {given : List Nat} (hp : start.Passage given d) :
    Reacted id e place reactions d deeds d' → ∃ given', start.Passage given' d'
  | .nil => ⟨_, hp⟩
  | .idle _ ht => passage_of_reacted hp ht
  | .quiet _ _ hs ht => by
    obtain ⟨_, h₁⟩ := (hp.still (.use _ _)).alter (settled_alters hs)
    exact passage_of_reacted h₁ ht
  | .round _ _ hd ht => by
    obtain ⟨_, h₁⟩ := passage_of_delivered (hp.still (.use _ _)) hd
    exact passage_of_reacted h₁ ht

end

mutual

theorem AmidDelivery.passage {e : PlaybackEvent} {handlers : List (Nat × Handler)} {d m : Deck}
    {given : List Nat} (hp : start.Passage given d) :
    AmidDelivery e handlers d m → ∃ given', start.Passage given' m
  | .here => ⟨_, hp⟩
  | .passed _ ht => AmidDelivery.passage hp ht
  | .inside _ hd => AmidReactions.passage (hp.still (.opening _ _ _)) hd
  | .reached _ hd ht => by
    obtain ⟨_, h₁⟩ := passage_of_reacted (hp.still (.opening _ _ _)) hd
    exact AmidDelivery.passage h₁ ht

theorem AmidReactions.passage {id : Nat} {e : PlaybackEvent} {place : Nat}
    {reactions : List Reaction} {d m : Deck} {given : List Nat} (hp : start.Passage given d) :
    AmidReactions id e place reactions d m → ∃ given', start.Passage given' m
  | .here => ⟨_, hp⟩
  | .idle _ ht => AmidReactions.passage hp ht
  | .used _ => ⟨_, hp.still (.use _ _)⟩
  | .quiet _ _ hs ht => by
    obtain ⟨_, h₁⟩ := (hp.still (.use _ _)).alter (settled_alters hs)
    exact AmidReactions.passage h₁ ht
  | .inside _ _ hd => AmidDelivery.passage (hp.still (.use _ _)) hd
  | .round _ _ hd ht => by
    obtain ⟨_, h₁⟩ := passage_of_delivered (hp.still (.use _ _)) hd
    exact AmidReactions.passage h₁ ht

end

/-- **Every deck that occurs** is reached by small changes. -/
theorem Amid.passage {steps : List Step} {d m : Deck} (h : Amid steps d m) {given : List Nat}
    (hp : start.Passage given d) : ∃ given', start.Passage given' m := by
  induction h generalizing given with
  | here => exact ⟨_, hp⟩
  | quiet _ hs _ ih =>
    obtain ⟨_, h₁⟩ := (hp.still .forget).alter (settled_alters hs)
    exact ih h₁
  | inside _ hd => exact AmidDelivery.passage (hp.still .forget) hd
  | round _ hd _ ih =>
    obtain ⟨_, h₁⟩ := passage_of_delivered (hp.still .forget) hd
    exact ih h₁

end Passages

end ListenDeck.Deck
