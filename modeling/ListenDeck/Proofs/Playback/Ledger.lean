import ListenDeck.Proofs.Playback.Reach

/-!
# The subscriptions of a deck

* `Deck.Sound`: a mounted card is registered under its number, an unmounted one is not, and no
  number belongs to two cards or to a card and a handle.
* `Deck.alters_sound`, `Deck.opening_sound`: nothing that can happen changes that; it holds of every
  deck that arises (`Deck.played_sound`).
* `Deck.alters_card`, `Deck.opening_cards`: what becomes of the cards in one step, and in one turn.
-/

namespace ListenDeck

/-- What is played, if the event says so. -/
def PlaybackEvent.announced : PlaybackEvent → List Item
  | .nowPlaying x => [x]
  | .playRequested _ => []

/-- A card after its handler was reached by an event: what is played marks it if it is its item. -/
def Card.heard (c : Card) : PlaybackEvent → Card
  | .nowPlaying x => { c with playing := decide (x = c.item) }
  | .playRequested _ => c

namespace Deck

open Named

/-! ## Subscriptions that end -/

section Release
variable (d : Deck) (s : Subscription)

@[simp] theorem release_cards : (d.release s).cards = d.cards := by
  unfold release
  split_ifs <;> rfl

@[simp] theorem release_handles : (d.release s).handles = d.handles := by
  unfold release
  split_ifs <;> rfl

@[simp] theorem release_held : (d.release s).held = d.held := by
  unfold release
  split_ifs <;> rfl

theorem release_nextId : (d.release s).bus.nextId = d.bus.nextId := by
  unfold release
  split_ifs <;> rfl

theorem mem_release {p : Nat × Handler} :
    p ∈ (d.release s).bus.handlers ↔ p ∈ d.bus.handlers ∧ (s.active = true → p.1 ≠ s.id) := by
  unfold release
  split_ifs with hs
  · simp [Bus.remove, hs]
  · simp [hs]

theorem mem_ids_release {id : Nat} :
    id ∈ (d.release s).bus.ids ↔ id ∈ d.bus.ids ∧ (s.active = true → id ≠ s.id) := by
  simp only [Bus.mem_ids, mem_release, exists_and_right]

end Release

section Cards
variable (d : Deck) (name : String)

@[simp] theorem subscribe_cards (reactions : List Reaction) :
    (d.subscribe name reactions).cards = d.cards := by
  unfold subscribe
  cases find? name d.handles with
  | none => rfl
  | some s => exact release_cards _ s

@[simp] theorem unsubscribe_cards : (d.unsubscribe name).cards = d.cards := by
  unfold unsubscribe
  split
  · rfl
  · exact release_cards d _

@[simp] theorem drop_cards : (d.drop name).1.cards = d.cards := by
  unfold drop
  split
  · rfl
  · exact release_cards d _

theorem mount_cards (item : Item) (onFlip : List Reaction) :
    (d.mount name item onFlip).cards =
      put name { item, subscription := { id := d.bus.nextId } } d.cards := by
  unfold mount
  cases find? name d.cards with
  | none => rfl
  | some c => exact release_cards _ c.subscription

theorem unmount_cards_of_some {c : Card} (hc : find? name d.cards = some c) :
    (d.unmount name).cards =
      put name { c with subscription := { c.subscription with active := false } } d.cards := by
  simp only [unmount, hc]

theorem unmount_of_none (hc : find? name d.cards = none) : d.unmount name = d := by
  simp only [unmount, hc]

theorem dropCard_cards : (d.dropCard name).1.cards = erase name d.cards := by
  unfold dropCard
  cases hc : find? name d.cards with
  | some c => rfl
  | none => exact (erase_of_none hc).symm

/-! What is kept under a name after that. -/

theorem find?_mount (other : String) (item : Item) (onFlip : List Reaction) :
    find? other (d.mount name item onFlip).cards =
      if other = name then some { item, subscription := { id := d.bus.nextId } }
      else find? other d.cards := by
  rw [mount_cards, find?_put]

theorem find?_unmount (other : String) :
    find? other (d.unmount name).cards =
      if other = name then
        (find? name d.cards).map fun c =>
          { c with subscription := { c.subscription with active := false } }
      else find? other d.cards := by
  cases hc : find? name d.cards with
  | none =>
    rw [unmount_of_none d name hc]
    split_ifs with hn
    · rw [hn]
      exact hc
    · rfl
  | some c =>
    rw [unmount_cards_of_some d name hc, find?_put]
    rfl

theorem find?_dropCard (other : String) :
    find? other (d.dropCard name).1.cards =
      if other = name then none else find? other d.cards := by
  rw [dropCard_cards, find?_erase]

end Cards

/-! ## Sound decks -/

/-- **A sound deck.** Cards are registered as long as they are mounted. -/
structure Sound (d : Deck) : Prop where
  numbered : d.bus.Numbered
  names : (d.cards.map Prod.fst).Nodup
  cardsBelow : ∀ p ∈ d.cards, p.2.subscription.id < d.bus.nextId
  handlesBelow : ∀ p ∈ d.handles, p.2.id < d.bus.nextId
  unique : ∀ p ∈ d.cards, ∀ q ∈ d.cards, p.2.subscription.id = q.2.subscription.id → p = q
  apart : ∀ p ∈ d.handles, ∀ q ∈ d.cards, q.2.subscription.id ≠ p.2.id
  mounted : ∀ p ∈ d.cards, p.2.subscription.active = true →
    ∃ onFlip, (p.2.subscription.id, Handler.card p.1 p.2.item onFlip) ∈ d.bus.handlers
  unmounted : ∀ p ∈ d.cards, p.2.subscription.active = false → p.2.subscription.id ∉ d.bus.ids

theorem sound_start (origin : String) : (start origin).Sound where
  numbered := Bus.numbered_start origin
  names := List.nodup_nil
  cardsBelow := by simp [start]
  handlesBelow := by simp [start]
  unique := by simp [start]
  apart := by simp [start]
  mounted := by simp [start]
  unmounted := by simp [start]

section Sound
variable {d : Deck}

theorem Sound.mem_ids (h : d.Sound) {p : String × Card} (hp : p ∈ d.cards)
    (ha : p.2.subscription.active = true) : p.2.subscription.id ∈ d.bus.ids := by
  obtain ⟨onFlip, hm⟩ := h.mounted p hp ha
  exact Bus.mem_ids_of_mem hm

theorem Sound.handler_eq (h : d.Sound) {p : String × Card} (hp : p ∈ d.cards) {handler : Handler}
    (hm : (p.2.subscription.id, handler) ∈ d.bus.handlers) :
    ∃ onFlip, handler = .card p.1 p.2.item onFlip := by
  cases ha : p.2.subscription.active with
  | false => exact absurd (Bus.mem_ids_of_mem hm) (h.unmounted p hp ha)
  | true =>
    obtain ⟨onFlip, hc⟩ := h.mounted p hp ha
    exact ⟨onFlip, h.numbered.eq_of_mem hm hc⟩

theorem Sound.cardOf?_eq (h : d.Sound) {p : String × Card} (hp : p ∈ d.cards) :
    d.cardOf? p.2.subscription.id = some p := by
  cases hf : d.cardOf? p.2.subscription.id with
  | none =>
    have := List.find?_eq_none.mp hf p hp
    simp at this
  | some q =>
    have hq := List.mem_of_find?_eq_some hf
    have he := List.find?_some hf
    rw [decide_eq_true_eq] at he
    rw [h.unique q hq p hp he]

theorem release_sound (h : d.Sound) {s : Subscription}
    (hs : ∀ q ∈ d.cards, q.2.subscription.id ≠ s.id) : (d.release s).Sound where
  numbered := (release_later d s).numbered h.numbered
  names := by rw [release_cards]; exact h.names
  cardsBelow := by rw [release_cards, release_nextId]; exact h.cardsBelow
  handlesBelow := by rw [release_handles, release_nextId]; exact h.handlesBelow
  unique := by rw [release_cards]; exact h.unique
  apart := by rw [release_cards, release_handles]; exact h.apart
  mounted := by
    rw [release_cards]
    intro p hp ha
    obtain ⟨onFlip, hm⟩ := h.mounted p hp ha
    exact ⟨onFlip, (mem_release d s).mpr ⟨hm, fun _ => hs p hp⟩⟩
  unmounted := by
    rw [release_cards]
    intro p hp ha hm
    exact h.unmounted p hp ha ((mem_ids_release d s).mp hm).1

theorem handles_sound (h : d.Sound) {handles : List (String × Subscription)}
    (hh : ∀ p ∈ handles, p.2.id < d.bus.nextId ∧ ∀ q ∈ d.cards, q.2.subscription.id ≠ p.2.id) :
    { d with handles }.Sound :=
  ⟨h.numbered, h.names, h.cardsBelow, fun p hp => (hh p hp).1, h.unique, fun p hp => (hh p hp).2,
    h.mounted, h.unmounted⟩

theorem put_handle_sound (h : d.Sound) (name : String) (s : Subscription)
    (hs : s.id < d.bus.nextId ∧ ∀ q ∈ d.cards, q.2.subscription.id ≠ s.id) :
    { d with handles := put name s d.handles }.Sound := by
  refine handles_sound h fun p hp => ?_
  rcases mem_of_mem_put hp with rfl | hp
  · exact hs
  · exact ⟨h.handlesBelow p hp, h.apart p hp⟩

theorem registered_sound (h : d.Sound) (handler : Handler) :
    { d with bus := (d.bus.subscribe handler).1 }.Sound where
  numbered := Bus.numbered_subscribe h.numbered handler
  names := h.names
  cardsBelow := fun p hp => Nat.lt_succ_of_lt (h.cardsBelow p hp)
  handlesBelow := fun p hp => Nat.lt_succ_of_lt (h.handlesBelow p hp)
  unique := h.unique
  apart := h.apart
  mounted := by
    intro p hp ha
    obtain ⟨onFlip, hm⟩ := h.mounted p hp ha
    exact ⟨onFlip, List.mem_append_left _ hm⟩
  unmounted := by
    intro p hp ha hm
    rw [Bus.ids_subscribe, List.mem_append, List.mem_singleton] at hm
    have hlt := h.cardsBelow p hp
    rcases hm with hm | hm
    · exact h.unmounted p hp ha hm
    · omega

theorem mounted_sound (h : d.Sound) (name : String) (item : Item) (onFlip : List Reaction) :
    { d with
      bus := (d.bus.subscribe (.card name item onFlip)).1
      cards := put name { item, subscription := { id := d.bus.nextId } } d.cards }.Sound := by
  have hr := registered_sound h (.card name item onFlip)
  refine ⟨hr.numbered, nodup_put h.names, fun p hp => ?_, hr.handlesBelow, fun p hp q hq he => ?_,
    fun p hp q hq => ?_, fun p hp ha => ?_, fun p hp ha => ?_⟩
  · rcases mem_of_mem_put hp with rfl | hp
    · exact Nat.lt_succ_self _
    · exact hr.cardsBelow p hp
  · rcases mem_of_mem_put hp with rfl | hp <;> rcases mem_of_mem_put hq with rfl | hq
    · rfl
    · exact absurd he (Nat.ne_of_gt (h.cardsBelow q hq))
    · exact absurd he (Nat.ne_of_lt (h.cardsBelow p hp))
    · exact h.unique p hp q hq he
  · rcases mem_of_mem_put hq with rfl | hq
    · exact Nat.ne_of_gt (h.handlesBelow p hp)
    · exact h.apart p hp q hq
  · rcases mem_of_mem_put hp with rfl | hp
    · exact ⟨onFlip, List.mem_append_right _ (List.mem_singleton_self _)⟩
    · exact hr.mounted p hp ha
  · rcases mem_of_mem_put hp with rfl | hp
    · cases ha
    · exact hr.unmounted p hp ha

theorem released_sound (h : d.Sound) {name : String} {c : Card} (hc : (name, c) ∈ d.cards)
    {cards : List (String × Card)} (hn : (cards.map Prod.fst).Nodup)
    (hcards : ∀ p ∈ cards, p ∈ d.cards ∧ p.1 ≠ name ∨
      p.1 = name ∧ p.2.subscription = { c.subscription with active := false }) :
    { d.release c.subscription with cards }.Sound := by
  have hother : ∀ p ∈ d.cards, p.1 ≠ name → p.2.subscription.id ≠ c.subscription.id := by
    intro p hp hne he
    exact hne (congrArg Prod.fst (h.unique p hp _ hc he))
  have hid : ∀ p ∈ cards, p ∈ d.cards ∧ p.1 ≠ name ∨
      p.1 = name ∧ p.2.subscription.id = c.subscription.id := by
    intro p hp
    rcases hcards p hp with hp | ⟨hpn, hps⟩
    · exact Or.inl hp
    · exact Or.inr ⟨hpn, by rw [hps]⟩
  have hinj := List.inj_on_of_nodup_map hn
  refine ⟨(release_later d _).numbered h.numbered, hn, fun p hp => ?_, fun p hp => ?_,
    fun p hp q hq he => ?_, fun p hp q hq => ?_, fun p hp ha => ?_, fun p hp ha hm => ?_⟩
  · rw [release_nextId]
    rcases hid p hp with ⟨hp, -⟩ | ⟨-, hpi⟩
    · exact h.cardsBelow p hp
    · rw [hpi]
      exact h.cardsBelow _ hc
  · simp only [release_handles] at hp
    rw [release_nextId]
    exact h.handlesBelow p hp
  · rcases hid p hp with ⟨hpd, hpn⟩ | ⟨hpn, hpi⟩ <;> rcases hid q hq with ⟨hqd, hqn⟩ | ⟨hqn, hqi⟩
    · exact h.unique p hpd q hqd he
    · exact absurd (he.trans hqi) (hother p hpd hpn)
    · exact absurd (he.symm.trans hpi) (hother q hqd hqn)
    · exact hinj hp hq (hpn.trans hqn.symm)
  · simp only [release_handles] at hp
    rcases hid q hq with ⟨hqd, -⟩ | ⟨-, hqi⟩
    · exact h.apart p hp q hqd
    · rw [hqi]
      exact h.apart p hp _ hc
  · rcases hcards p hp with ⟨hpd, hpn⟩ | ⟨-, hps⟩
    · obtain ⟨onFlip, hm⟩ := h.mounted p hpd ha
      exact ⟨onFlip, (mem_release d _).mpr ⟨hm, fun _ => hother p hpd hpn⟩⟩
    · rw [hps] at ha
      cases ha
  · obtain ⟨hm, hne⟩ := (mem_ids_release d _).mp hm
    rcases hcards p hp with ⟨hpd, -⟩ | ⟨-, hps⟩
    · exact h.unmounted p hpd ha hm
    · rw [hps] at hm hne
      cases hca : c.subscription.active with
      | false => exact h.unmounted _ hc hca hm
      | true => exact hne hca rfl

/-! ## Sound for ever -/

theorem alters_sound (h : d.Sound) {d' : Deck} (hd : d.Alters d') : d'.Sound := by
  cases hd with
  | same => exact h
  | subscribe name reactions =>
    have hr := registered_sound h (.program name reactions)
    have hnew : d.bus.nextId < d.bus.nextId + 1 ∧
        ∀ q ∈ d.cards, q.2.subscription.id ≠ d.bus.nextId :=
      ⟨Nat.lt_succ_self _, fun q hq => Nat.ne_of_lt (h.cardsBelow q hq)⟩
    have hh := put_handle_sound hr name { id := d.bus.nextId } hnew
    unfold subscribe
    cases ho : find? name d.handles with
    | none => exact hh
    | some o => exact release_sound hh (h.apart _ (mem_of_find? ho))
  | unsubscribe name =>
    unfold unsubscribe
    cases hs : find? name d.handles with
    | none => exact h
    | some s =>
      have hm := mem_of_find? hs
      have hr := release_sound h (h.apart _ hm)
      have hh := put_handle_sound hr name { s with active := false }
        ⟨by rw [release_nextId]; exact h.handlesBelow _ hm,
          by rw [release_cards]; exact h.apart _ hm⟩
      rw [release_handles] at hh
      exact hh
  | drop name =>
    unfold drop
    cases hs : find? name d.handles with
    | none => exact h
    | some s =>
      have hr := release_sound h (h.apart _ (mem_of_find? hs))
      refine handles_sound hr fun p hp => ?_
      have hp' := (mem_erase.mp hp).1
      exact ⟨by rw [release_nextId]; exact h.handlesBelow p hp',
        by rw [release_cards]; exact h.apart p hp'⟩
  | mount name item onFlip =>
    have hm := mounted_sound h name item onFlip
    unfold mount
    cases ho : find? name d.cards with
    | none => exact hm
    | some o =>
      have hmo := mem_of_find? ho
      refine release_sound hm fun q hq he => ?_
      rcases mem_put h.names hq with rfl | ⟨hq, hqn⟩
      · exact Nat.ne_of_gt (h.cardsBelow _ hmo) he
      · exact hqn (congrArg Prod.fst (h.unique q hq _ hmo he))
  | unmount name =>
    unfold unmount
    cases hc : find? name d.cards with
    | none => exact h
    | some c =>
      refine released_sound h (mem_of_find? hc) (nodup_put h.names) fun p hp => ?_
      rcases mem_put h.names hp with rfl | hp
      · exact Or.inr ⟨rfl, rfl⟩
      · exact Or.inl hp
  | dropCard name =>
    unfold dropCard
    cases hc : find? name d.cards with
    | none => exact h
    | some c =>
      exact released_sound h (mem_of_find? hc) (h.names.sublist (List.filter_sublist.map _))
        fun p hp => Or.inl (mem_erase.mp hp)
  | dropBus => exact ⟨h.numbered, h.names, h.cardsBelow, h.handlesBelow, h.unique, h.apart,
      h.mounted, h.unmounted⟩

theorem setPlaying_sound (h : d.Sound) (id : Nat) (playing : Bool) :
    (d.setPlaying id playing).Sound := by
  have hsame : ∀ p ∈ (d.setPlaying id playing).cards, ∃ q ∈ d.cards,
      p.1 = q.1 ∧ p.2.item = q.2.item ∧ p.2.subscription = q.2.subscription := by
    intro p hp
    obtain ⟨q, hq, rfl⟩ := List.mem_map.mp hp
    refine ⟨q, hq, ?_⟩
    split_ifs <;> exact ⟨rfl, rfl, rfl⟩
  have hnames : (d.setPlaying id playing).cards.map Prod.fst = d.cards.map Prod.fst := by
    rw [setPlaying, List.map_map]
    refine List.map_congr_left fun p hp => ?_
    simp only [Function.comp_apply]
    split_ifs <;> rfl
  refine ⟨h.numbered, by rw [hnames]; exact h.names, fun p hp => ?_, h.handlesBelow,
    fun p hp q hq he => ?_, fun p hp q hq => ?_, fun p hp ha => ?_, fun p hp ha => ?_⟩
  · obtain ⟨p', hp', -, -, hs⟩ := hsame p hp
    rw [hs]
    exact h.cardsBelow p' hp'
  · obtain ⟨p', hp', rfl⟩ := List.mem_map.mp hp
    obtain ⟨q', hq', rfl⟩ := List.mem_map.mp hq
    have : p' = q' := by
      refine h.unique p' hp' q' hq' ?_
      split_ifs at he <;> exact he
    rw [this]
  · obtain ⟨q', hq', -, -, hs⟩ := hsame q hq
    rw [hs]
    exact h.apart p hp q' hq'
  · obtain ⟨p', hp', hn, hi, hs⟩ := hsame p hp
    rw [hs] at ha ⊢
    rw [hn, hi]
    exact h.mounted p' hp' ha
  · obtain ⟨p', hp', -, -, hs⟩ := hsame p hp
    rw [hs] at ha ⊢
    exact h.unmounted p' hp' ha

theorem log_sound (h : d.Sound) (log : List Happening) : { d with log }.Sound :=
  ⟨h.numbered, h.names, h.cardsBelow, h.handlesBelow, h.unique, h.apart, h.mounted, h.unmounted⟩

theorem use_sound (h : d.Sound) (id place : Nat) : (d.use id place).Sound :=
  ⟨h.numbered, h.names, h.cardsBelow, h.handlesBelow, h.unique, h.apart, h.mounted, h.unmounted⟩

theorem opening_sound (h : d.Sound) (id : Nat) (e : PlaybackEvent) (handler : Handler) :
    (d.opening id e handler).1.Sound := by
  cases handler with
  | program name reactions => exact log_sound h _
  | card name item onFlip =>
    cases e with
    | playRequested i => exact h
    | nowPlaying i =>
      simp only [opening]
      split_ifs
      · exact log_sound (setPlaying_sound h id _) _
      · exact h

end Sound

mutual

theorem delivered_sound {e : PlaybackEvent} {handlers : List (Nat × Handler)} {d : Deck}
    {slots : Slots} {d' : Deck} (h : d.Sound) : Delivered e handlers d slots d' → d'.Sound
  | .done => h
  | .passed _ ht => delivered_sound h ht
  | .reached _ hd ht => delivered_sound (reacted_sound (opening_sound h _ _ _) hd) ht

theorem reacted_sound {id : Nat} {e : PlaybackEvent} {place : Nat} {reactions : List Reaction}
    {d : Deck} {deeds : Deeds} {d' : Deck} (h : d.Sound) :
    Reacted id e place reactions d deeds d' → d'.Sound
  | .nil => h
  | .idle _ ht => reacted_sound h ht
  | .quiet _ _ hs ht => reacted_sound (alters_sound (use_sound h _ _) (settled_alters hs)) ht
  | .round _ _ hd ht => reacted_sound (delivered_sound (use_sound h _ _) hd) ht

end

/-- **Whatever is done by hand**, the deck stays sound. -/
theorem played_sound {steps : List Step} {d d' : Deck} {deeds : Deeds}
    (hp : Played steps d deeds d') (h : d.Sound) : d'.Sound := by
  induction hp with
  | nil => exact h
  | quiet _ hs _ ih => exact ih (alters_sound (log_sound h _) (settled_alters hs))
  | round _ hd _ ih => exact ih (delivered_sound (log_sound h _) hd)

/-! ## What becomes of the cards -/

/-- **The cards after a step** that publishes nothing: a card was there before, as it is or mounted,
or it is new and has no mark. -/
theorem alters_card {d d' : Deck} (hd : d.Alters d') {p : String × Card} (hp : p ∈ d'.cards) :
    p ∈ d.cards ∨
      (∃ c, (p.1, c) ∈ d.cards ∧
        p.2 = { c with subscription := { c.subscription with active := false } }) ∨
      p.2.playing = false ∧ p.2.subscription.id = d.bus.nextId := by
  cases hd with
  | same => exact Or.inl hp
  | subscribe name reactions => rw [subscribe_cards] at hp; exact Or.inl hp
  | unsubscribe name => rw [unsubscribe_cards] at hp; exact Or.inl hp
  | drop name => rw [drop_cards] at hp; exact Or.inl hp
  | mount name item onFlip =>
    rw [mount_cards] at hp
    rcases mem_of_mem_put hp with rfl | hp
    · exact Or.inr (Or.inr ⟨rfl, rfl⟩)
    · exact Or.inl hp
  | unmount name =>
    cases hc : find? name d.cards with
    | none =>
      rw [unmount_of_none d name hc] at hp
      exact Or.inl hp
    | some c =>
      rw [unmount_cards_of_some d name hc] at hp
      rcases mem_of_mem_put hp with rfl | hp
      · exact Or.inr (Or.inl ⟨c, mem_of_find? hc, rfl⟩)
      · exact Or.inl hp
  | dropCard name =>
    rw [dropCard_cards] at hp
    exact Or.inl (mem_erase.mp hp).1
  | dropBus => exact Or.inl hp

theorem alters_cards {d d' : Deck} (hd : d.Alters d') {p : String × Card} (hp : p ∈ d'.cards)
    (ha : p.2.subscription.active = true) :
    p ∈ d.cards ∨ p.2.playing = false ∧ p.2.subscription.id = d.bus.nextId := by
  rcases alters_card hd hp with hp | ⟨c, -, hpc⟩ | hnew
  · exact Or.inl hp
  · rw [hpc] at ha
    cases ha
  · exact Or.inr hnew

/-- **The cards after the beginning of a turn**: the one of the handler follows the event. -/
theorem opening_cards {d : Deck} (h : d.Sound) {id : Nat} {handler : Handler}
    (hm : (id, handler) ∈ d.bus.handlers) (e : PlaybackEvent) :
    (d.opening id e handler).1.cards =
      d.cards.map fun p => if p.2.subscription.id = id then (p.1, p.2.heard e) else p := by
  cases e with
  | playRequested x =>
    have hsame : ∀ p : String × Card,
        (if p.2.subscription.id = id then (p.1, p.2.heard (.playRequested x)) else p) = p := by
      intro p
      split_ifs <;> rfl
    simp only [hsame, List.map_id']
    cases handler <;> rfl
  | nowPlaying x =>
    cases handler with
    | program name reactions =>
      -- the handler's number is none of a card
      refine ((List.map_congr_left fun p hp => if_neg ?_).trans (List.map_id d.cards)).symm
      rintro rfl
      obtain ⟨onFlip, hc⟩ := h.handler_eq hp hm
      cases hc
    | card name item onFlip =>
      have hitem : ∀ p ∈ d.cards, p.2.subscription.id = id → p.2.item = item := by
        rintro p hp rfl
        obtain ⟨onFlip', hc⟩ := h.handler_eq hp hm
        cases hc
        rfl
      simp only [opening]
      split_ifs with hflip
      · refine List.map_congr_left fun p hp => ?_
        split_ifs with hid
        · simp only [Card.heard, hitem p hp hid]
        · rfl
      · -- the mark is right already
        refine ((List.map_congr_left fun p hp => ?_).trans (List.map_id d.cards)).symm
        split_ifs with hid
        · subst hid
          rw [h.cardOf?_eq hp, ← hitem p hp rfl] at hflip
          simp only [Option.any_some, decide_eq_true_eq, not_not] at hflip
          simp only [Card.heard, ← hflip, id]
        · rfl

end Deck

end ListenDeck
