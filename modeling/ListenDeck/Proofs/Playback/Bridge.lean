import ListenDeck.Proofs.Playback.Ledger

/-!
# Playing without a player

Where there is no player, a handler that subscribed before every card confirms each request at once.

* `Deck.bridged`: the bus with that handler; `Deck.Bridged` is what work on cards keeps of it.
* `Deck.delivered_of_unfit`: a delivery that nobody heeds tells the cards and does nothing else.
* `Deck.bridged_delivered`: every delivery on such a bus says of one item that it is played, and
  tells all mounted cards; it returns (`Deck.bridged_publish`).
-/

namespace ListenDeck

/-- A card after an item was said to be played: it follows if it is mounted. -/
def Card.told (c : Card) (x : Item) : Card :=
  if c.subscription.active then c.heard (.nowPlaying x) else c

namespace Card

@[simp] theorem told_item (c : Card) (x : Item) : (c.told x).item = c.item := by
  unfold told
  split_ifs <;> rfl

@[simp] theorem told_subscription (c : Card) (x : Item) :
    (c.told x).subscription = c.subscription := by
  unfold told
  split_ifs <;> rfl

end Card

namespace Deck

open Named

mutual

/-- The items that were said to be played inside a delivery, in the order this was published. -/
def Slots.announced : Slots → List Item
  | .nil => []
  | .passed _ _ _ rest => rest.announced
  | .reached _ _ _ deeds rest => deeds.announced ++ rest.announced

/-- The items that were said to be played, in the order this was published. -/
def Deeds.announced : Deeds → List Item
  | .nil => []
  | .quiet _ rest => rest.announced
  | .round e _ slots rest => e.announced ++ slots.announced ++ rest.announced

end

/-! ## Handlers that heed no event -/

theorem reacted_of_unfit {id : Nat} {e : PlaybackEvent} {place : Nat} {reactions : List Reaction}
    {d : Deck} {deeds : Deeds} {d' : Deck} (hr : ∀ r ∈ reactions, r.trigger.fits e = false)
    (h : Reacted id e place reactions d deeds d') : deeds = .nil ∧ d' = d := by
  induction reactions generalizing place with
  | nil => cases h; exact ⟨rfl, rfl⟩
  | cons r rest ih =>
    have hrest := fun r' hr' => hr r' (List.mem_cons_of_mem r hr')
    have hnot : d.runs id e place r = false := by
      rw [runs, hr r List.mem_cons_self, Bool.false_and]
    cases h with
    | idle _ ht => exact ih hrest ht
    | quiet hrun => rw [hnot] at hrun; cases hrun
    | round hrun => rw [hnot] at hrun; cases hrun

/-- The card hears of the event if its handler is one of these. -/
def hearing (e : PlaybackEvent) (ids : List Nat) (p : String × Card) : String × Card :=
  if p.2.subscription.id ∈ ids then (p.1, p.2.heard e) else p

theorem hearing_nil (e : PlaybackEvent) : hearing e [] = id := by
  funext p
  simp [hearing]

theorem hearing_cons (e : PlaybackEvent) (id : Nat) (ids : List Nat) (p : String × Card) :
    hearing e ids (hearing e [id] p) = hearing e (id :: ids) p := by
  have hid : (p.2.heard e).subscription = p.2.subscription := by cases e <;> rfl
  have htwice : (p.2.heard e).heard e = p.2.heard e := by cases e <;> rfl
  by_cases h : p.2.subscription.id = id <;> by_cases h' : p.2.subscription.id ∈ ids <;>
    simp [hearing, h, h', hid, htwice]

/-- **A delivery that nobody heeds** tells the cards and does nothing else. -/
theorem delivered_of_unfit {e : PlaybackEvent} {handlers : List (Nat × Handler)} {d : Deck}
    {slots : Slots} {d' : Deck} (hs : d.Sound)
    (hr : ∀ p ∈ handlers, ∀ r ∈ reactionsOf p.2, r.trigger.fits e = false)
    (hm : ∀ p ∈ handlers, p ∈ d.bus.handlers) (h : Delivered e handlers d slots d') :
    slots.announced = [] ∧ d'.bus = d.bus ∧ d'.held = d.held ∧
      d'.cards = d.cards.map (hearing e (handlers.map Prod.fst)) := by
  induction handlers generalizing d slots with
  | nil =>
    cases h
    exact ⟨rfl, rfl, rfl, by rw [List.map_nil, hearing_nil, List.map_id]⟩
  | cons p rest ih =>
    obtain ⟨id, handler⟩ := p
    have hmem := hm _ List.mem_cons_self
    have hrest := fun q hq => hr q (List.mem_cons_of_mem (id, handler) hq)
    cases h with
    | passed hreg => exact absurd (Bus.mem_ids_of_mem hmem) (Bus.isRegistered_eq_false.mp hreg)
    | reached hreg hd ht =>
      have hunfit : ∀ r ∈ (d.opening id e handler).2, r.trigger.fits e = false :=
        fun r hm => hr _ List.mem_cons_self r ((opening_reactions d id e handler).subset hm)
      obtain ⟨rfl, rfl⟩ := reacted_of_unfit hunfit hd
      obtain ⟨hbus, hheld⟩ := opening_frame d id e handler
      obtain ⟨h1, h2, h3, h4⟩ := ih (opening_sound hs id e handler) hrest
        (fun q hq => by rw [hbus]; exact hm q (List.mem_cons_of_mem _ hq)) ht
      refine ⟨?_, h2.trans hbus, h3.trans hheld, ?_⟩
      · simp only [Slots.announced, Deeds.announced, h1, List.append_nil]
      · rw [h4, opening_cards hs hmem, List.map_map]
        refine List.map_congr_left fun q hq => ?_
        rw [List.map_cons, ← hearing_cons]
        simp only [Function.comp_apply, hearing, List.mem_singleton]

/-! ## The bridge -/

/-- What confirms every request. -/
def bridge : List Reaction := [.on (.kind .playRequested) none .confirm]

/-- A bus on which nothing but the bridge listens. -/
def bridged (origin : String) : Deck := (start origin).subscribe "player" bridge

/-- The bridge listens first, and nobody behind it answers anything. -/
def BridgeFirst (handlers : List (Nat × Handler)) : Prop :=
  ∃ rest, handlers = (0, .program "player" bridge) :: rest ∧ ∀ p ∈ rest, reactionsOf p.2 = []

/-- **The bridge and cards**: the bridge came first, and the others only listen. -/
structure Bridged (d : Deck) : Prop where
  sound : d.Sound
  held : d.held = true
  handlers : BridgeFirst d.bus.handlers

theorem bridged_start (origin : String) : (bridged origin).Bridged where
  sound := alters_sound (sound_start origin) (.subscribe "player" bridge)
  held := rfl
  handlers := ⟨[], rfl, fun _ hp => absurd hp List.not_mem_nil⟩

section Bridged
variable {d : Deck}

theorem Bridged.card_id (h : d.Bridged) {p : String × Card} (hp : p ∈ d.cards) :
    p.2.subscription.id ≠ 0 := by
  intro he
  obtain ⟨cards, hc, -⟩ := h.handlers
  have hm : (p.2.subscription.id, .program "player" bridge) ∈ d.bus.handlers := by
    rw [he, hc]
    exact List.mem_cons_self
  obtain ⟨onFlip, hb⟩ := h.sound.handler_eq hp hm
  cases hb

/-- The mounted cards are told. -/
def tell (x : Item) (p : String × Card) : String × Card := (p.1, p.2.told x)

theorem find?_tell (x : Item) (name : String) (cards : List (String × Card)) :
    find? name (cards.map (tell x)) = (find? name cards).map (·.told x) := by
  induction cards with
  | nil => rfl
  | cons p rest ih =>
    obtain ⟨n, c⟩ := p
    rw [List.map_cons, tell, find?, find?, List.lookup_cons, List.lookup_cons]
    cases name == n
    · exact ih
    · rfl

theorem hearing_all (h : d.Sound) (x : Item) :
    d.cards.map (hearing (.nowPlaying x) d.bus.ids) = d.cards.map (tell x) := by
  refine List.map_congr_left fun p hp => ?_
  cases ha : p.2.subscription.active with
  | true => simp only [hearing, tell, Card.told, ha, h.mem_ids hp ha, if_true]
  | false => simp [hearing, tell, Card.told, ha, h.unmounted p hp ha]

theorem hearing_request (x : Item) (ids : List Nat) (cards : List (String × Card)) :
    cards.map (hearing (.playRequested x) ids) = cards := by
  refine (List.map_congr_left fun p _ => ?_).trans (List.map_id cards)
  simp only [hearing, Card.heard]
  split_ifs <;> rfl

theorem unfit_of_silent {handlers : List (Nat × Handler)}
    (h : ∀ p ∈ handlers, reactionsOf p.2 = []) (e : PlaybackEvent) :
    ∀ p ∈ handlers, ∀ r ∈ reactionsOf p.2, r.trigger.fits e = false := by
  intro p hp r hr
  rw [h p hp] at hr
  cases hr

theorem nowPlaying_unfit (h : d.Bridged) (x : Item) :
    ∀ p ∈ d.bus.handlers, ∀ r ∈ reactionsOf p.2, r.trigger.fits (.nowPlaying x) = false := by
  obtain ⟨rest, hc, hrest⟩ := h.handlers
  rw [hc]
  intro p hp r hr
  rcases List.mem_cons.mp hp with rfl | hp
  · rw [List.mem_singleton.mp hr]
    rfl
  · exact unfit_of_silent hrest _ p hp r hr

theorem use_bridged (h : d.Bridged) (id place : Nat) : (d.use id place).Bridged :=
  ⟨use_sound h.sound id place, h.held, h.handlers⟩

theorem log_bridged (h : d.Bridged) (log : List Happening) : { d with log }.Bridged :=
  ⟨log_sound h.sound log, h.held, h.handlers⟩

theorem bridged_nowPlaying (h : d.Bridged) {x : Item} {slots : Slots} {d' : Deck}
    (hd : Delivered (.nowPlaying x) d.bus.handlers d slots d') :
    slots.announced = [] ∧ d'.bus = d.bus ∧ d'.held = d.held ∧ d'.cards = d.cards.map (tell x) := by
  have hall := delivered_of_unfit h.sound (nowPlaying_unfit h x) (fun _ hp => hp) hd
  rw [← hearing_all h.sound x]
  exact hall

theorem bridge_runs (d : Deck) (id place : Nat) (x : Item) :
    d.runs id (.playRequested x) place (.on (.kind .playRequested) none .confirm) = true := rfl

theorem bridge_publishes (h : d.Bridged) (x : Item) :
    published? (some (.playRequested x)) d .confirm = some (.nowPlaying x) := by
  simp only [published?, h.held, if_true, Option.map_some, PlaybackEvent.item]

theorem bridge_reacted (h : d.Bridged) {x : Item} {deeds : Deeds} {d' : Deck}
    (hd : Reacted 0 (.playRequested x) 0 bridge d deeds d') :
    deeds.announced = [x] ∧ d'.bus = d.bus ∧ d'.held = d.held ∧
      d'.cards = d.cards.map (tell x) := by
  have hu := use_bridged h 0 0
  cases hd with
  | idle hr => rw [bridge_runs] at hr; cases hr
  | quiet _ hp =>
    rw [Reaction.step, bridge_publishes hu] at hp
    cases hp
  | round _ hp hin hrest =>
    rw [Reaction.step, bridge_publishes hu, Option.some.injEq] at hp
    subst hp
    cases hrest
    obtain ⟨h1, h2⟩ := bridged_nowPlaying hu hin
    refine ⟨?_, h2⟩
    simp only [Deeds.announced, PlaybackEvent.announced, h1, List.append_nil]

/-- **Every delivery** says of one item that it is played, that of the event, and tells all mounted
cards. -/
theorem bridged_delivered (h : d.Bridged) {e : PlaybackEvent} {slots : Slots} {d' : Deck}
    (hd : Delivered e d.bus.handlers d slots d') :
    e.announced ++ slots.announced = [e.item] ∧ d'.bus = d.bus ∧ d'.held = d.held ∧
      d'.cards = d.cards.map (tell e.item) := by
  cases e with
  | nowPlaying x =>
    obtain ⟨h1, h2⟩ := bridged_nowPlaying h hd
    exact ⟨by rw [h1]; rfl, h2⟩
  | playRequested x =>
    obtain ⟨rest, hc, hrest⟩ := h.handlers
    rw [hc] at hd
    cases hd with
    | passed hreg =>
      refine absurd ?_ (Bus.isRegistered_eq_false.mp hreg)
      exact Bus.mem_ids_of_mem (by rw [hc]; exact List.mem_cons_self)
    | reached _ hreact ht =>
      have hopen := log_bridged h (d.log ++ [.handled 0 "player" (.playRequested x)])
      obtain ⟨h1, h2, h3, h4⟩ := bridge_reacted hopen hreact
      have hmem : ∀ p ∈ rest, p ∈ d.bus.handlers := by
        rw [hc]
        exact fun p hp => List.mem_cons_of_mem _ hp
      obtain ⟨h5, h6, h7, h8⟩ := delivered_of_unfit (reacted_sound hopen.sound hreact)
        (unfit_of_silent hrest _) (by rw [h2]; exact hmem) ht
      refine ⟨?_, h6.trans h2, h7.trans h3, ?_⟩
      · simp only [PlaybackEvent.announced, Slots.announced, h1, h5, List.append_nil,
          List.nil_append]
        rfl
      · rw [h8, hearing_request, h4]
        rfl

/-! ### Every delivery returns -/

theorem publish_nowPlaying (h : d.Bridged) (x : Item) (depth : Nat) :
    ∃ d', publish (depth + 1) d (.nowPlaying x) = some d' := by
  refine deliverTo_of_quiet _ fun p hp r hr hfit => ?_
  rw [nowPlaying_unfit h x p hp r hr] at hfit
  cases hfit

/-- **Every delivery returns**, and no more than two ever nest. -/
theorem bridged_publish (h : d.Bridged) (e : PlaybackEvent) (depth : Nat) :
    ∃ d', publish (depth + 2) d e = some d' := by
  cases e with
  | nowPlaying x => exact publish_nowPlaying h x (depth + 1)
  | playRequested x =>
    obtain ⟨rest, hc, hrest⟩ := h.handlers
    have hreg : d.bus.isRegistered 0 = true := by
      rw [Bus.isRegistered_iff]
      exact Bus.mem_ids_of_mem (by rw [hc]; exact List.mem_cons_self)
    have hopen := log_bridged h (d.log ++ [.handled 0 "player" (.playRequested x)])
    have hu := use_bridged hopen 0 0
    obtain ⟨d₁, hd₁⟩ := publish_nowPlaying hu x depth
    have hreact : react (publish (depth + 1)) 0 (.playRequested x) 0 bridge
        { d with log := d.log ++ [.handled 0 "player" (.playRequested x)] } = some d₁ := by
      rw [bridge, react_cons, if_pos (bridge_runs _ _ _ _), Reaction.step,
        perform_of_published (bridge_publishes hu x), hd₁]
      rfl
    show ∃ d', deliverTo (publish (depth + 1)) (.playRequested x) d.bus.handlers d = some d'
    rw [hc, deliverTo_cons, if_pos hreg]
    simp only [opening]
    rw [hreact, Option.bind_some]
    refine deliverTo_of_quiet _ fun p hp r hr hfit => ?_
    rw [unfit_of_silent hrest _ p hp r hr] at hfit
    cases hfit

theorem delivered_bridged (h : d.Bridged) {e : PlaybackEvent} {slots : Slots} {d' : Deck}
    (hd : Delivered e d.bus.handlers d slots d') : d'.Bridged := by
  obtain ⟨-, hbus, hheld, -⟩ := bridged_delivered h hd
  exact ⟨delivered_sound h.sound hd, by rw [hheld]; exact h.held, by rw [hbus]; exact h.handlers⟩

end Bridged

end Deck

end ListenDeck
