import ListenDeck.Proofs.Playback.Rules
import Mathlib.Data.List.Nodup

/-!
# Whom a delivery reaches

* `Bus.Numbered`: the numbers of the registered handlers increase and were given out before.
* `Bus.Later`: one bus comes after another one; what was registered then is registered now or has
  left for good. Every step of a deck leads to a later bus (`alters_later`), hence everything that
  happens during a delivery does (`delivered_later`).
* `Deck.Slots.Lawful`: the law of delivery, for a delivery and all the deliveries inside it
  (`delivered_lawful`).
* `Deck.delivery_law`: every delivery that returns keeps the law; when no handler publishes anything
  it does return.
-/

namespace ListenDeck

namespace Bus

/-- The numbers of the registered handlers increase, and were given out before. -/
structure Numbered (b : Bus) : Prop where
  increasing : b.ids.Pairwise (· < ·)
  below : ∀ id ∈ b.ids, id < b.nextId

section Numbered
variable {b : Bus}

theorem mem_ids_of_mem {id : Nat} {h : Handler} (hm : (id, h) ∈ b.handlers) : id ∈ b.ids :=
  List.mem_map_of_mem hm

theorem mem_ids {id : Nat} : id ∈ b.ids ↔ ∃ h, (id, h) ∈ b.handlers := by
  constructor
  · intro hm
    obtain ⟨p, hp, rfl⟩ := List.mem_map.mp hm
    exact ⟨p.2, hp⟩
  · rintro ⟨h, hm⟩
    exact mem_ids_of_mem hm

theorem isRegistered_iff {id : Nat} : b.isRegistered id = true ↔ id ∈ b.ids := by
  simp [isRegistered, ids]

theorem isRegistered_eq_false {id : Nat} : b.isRegistered id = false ↔ id ∉ b.ids := by
  rw [← isRegistered_iff, Bool.not_eq_true]

theorem Numbered.eq_of_mem (hb : b.Numbered) {id : Nat} {h h' : Handler}
    (hm : (id, h) ∈ b.handlers) (hm' : (id, h') ∈ b.handlers) : h = h' := by
  have hn : b.ids.Nodup := hb.increasing.imp fun hlt => Nat.ne_of_lt hlt
  have he : (id, h) = (id, h') := List.inj_on_of_nodup_map hn hm hm' rfl
  exact congrArg Prod.snd he

theorem numbered_start (origin : String) : Numbered { origin } :=
  ⟨List.Pairwise.nil, fun _ h => absurd h List.not_mem_nil⟩

theorem ids_subscribe (b : Bus) (h : Handler) : (b.subscribe h).1.ids = b.ids ++ [b.nextId] := by
  simp [subscribe, ids]

theorem numbered_subscribe (hb : b.Numbered) (h : Handler) : (b.subscribe h).1.Numbered := by
  have hn : (b.subscribe h).1.nextId = b.nextId + 1 := rfl
  refine ⟨?_, fun id hm => ?_⟩
  · rw [ids_subscribe, List.pairwise_append]
    refine ⟨hb.increasing, List.pairwise_singleton _ _, fun id hm id' hm' => ?_⟩
    rw [List.mem_singleton] at hm'
    have := hb.below id hm
    omega
  · rw [ids_subscribe, List.mem_append, List.mem_singleton] at hm
    rcases hm with hm | rfl
    · have := hb.below id hm
      omega
    · omega

theorem sublist_remove (b : Bus) (id : Nat) : (b.remove id).handlers.Sublist b.handlers :=
  List.filter_sublist

theorem numbered_remove (hb : b.Numbered) (id : Nat) : (b.remove id).Numbered := by
  have hs : (b.remove id).ids.Sublist b.ids := (sublist_remove b id).map _
  exact ⟨hb.increasing.sublist hs, fun id' hm => hb.below id' (hs.subset hm)⟩

end Numbered

/-! ## Later buses -/

/-- **A later bus**: whoever is registered was registered before, or has a new number. -/
structure Later (b b' : Bus) : Prop where
  nextId : b.nextId ≤ b'.nextId
  old : ∀ p ∈ b'.handlers, p ∈ b.handlers ∨ b.nextId ≤ p.1
  numbered : b.Numbered → b'.Numbered

section Later
variable {a b c : Bus}

theorem Later.refl (b : Bus) : b.Later b := ⟨Nat.le_refl _, fun _ => Or.inl, id⟩

theorem Later.trans (h : a.Later b) (h' : b.Later c) : a.Later c := by
  refine ⟨Nat.le_trans h.nextId h'.nextId, fun p hp => ?_, h'.numbered ∘ h.numbered⟩
  rcases h'.old p hp with hp | hp
  · exact h.old p hp
  · exact Or.inr (Nat.le_trans h.nextId hp)

theorem later_subscribe (b : Bus) (h : Handler) : b.Later (b.subscribe h).1 := by
  refine ⟨Nat.le_succ _, fun p hp => ?_, fun hb => numbered_subscribe hb h⟩
  rcases List.mem_append.mp hp with hp | hp
  · exact Or.inl hp
  · rw [List.mem_singleton] at hp
    rw [hp]
    exact Or.inr (Nat.le_refl _)

theorem later_remove (b : Bus) (id : Nat) : b.Later (b.remove id) :=
  ⟨Nat.le_refl _, fun _ hp => Or.inl ((sublist_remove b id).subset hp),
    fun hb => numbered_remove hb id⟩

/-- **No way back**: who was registered once and is registered later was registered all the time. -/
theorem Later.mem_of_mem (hb : a.Numbered) (h : a.Later b) (h' : b.Later c) {id : Nat}
    {x : Handler} (hm : (id, x) ∈ a.handlers) (hc : id ∈ c.ids) : (id, x) ∈ b.handlers := by
  obtain ⟨y, hy⟩ := mem_ids.mp hc
  have hlt := hb.below id (mem_ids_of_mem hm)
  have hle := h.nextId
  have hyb : (id, y) ∈ b.handlers := by
    rcases h'.old _ hy with hy | hy
    · exact hy
    · simp only at hy
      omega
  have hya : (id, y) ∈ a.handlers := by
    rcases h.old _ hyb with hya | hya
    · exact hya
    · simp only at hya
      omega
  rw [hb.eq_of_mem hm hya]
  exact hyb

end Later

end Bus

/-- A handler was reached by an event. -/
def Happening.isHandled : Happening → Bool
  | .handled .. => true
  | .flipped .. => false

/-- The step publishes nothing, whatever the deck. -/
def Step.isQuiet : Step → Bool
  | .publish _ => false
  | .receive .. => false
  | .play _ => false
  | .confirm => false
  | _ => true

namespace Deck

open Named

/-! ## Every step leads to a later bus -/

section Steps
variable (d : Deck)

theorem release_bus (s : Subscription) :
    (d.release s).bus = d.bus ∨ ∃ id, (d.release s).bus = d.bus.remove id := by
  unfold release
  split_ifs
  · exact Or.inr ⟨_, rfl⟩
  · exact Or.inl rfl

theorem release_log (s : Subscription) : (d.release s).log = d.log := by
  unfold release
  split_ifs <;> rfl

theorem release_later (s : Subscription) : d.bus.Later (d.release s).bus := by
  rcases release_bus d s with h | ⟨id, h⟩ <;> rw [h]
  · exact Bus.Later.refl _
  · exact Bus.later_remove _ _

variable {d} in
/-- **What a step that publishes nothing does to the bus**: it registers a handler or none, and then
removes one or none. -/
theorem alters_bus {d' : Deck} (h : d.Alters d') : d'.log = d.log ∧
    ∃ b, (b = d.bus ∨ ∃ handler, b = (d.bus.subscribe handler).1) ∧
      (d'.bus = b ∨ ∃ id, d'.bus = b.remove id) := by
  cases h with
  | same => exact ⟨rfl, _, Or.inl rfl, Or.inl rfl⟩
  | subscribe name reactions =>
    unfold subscribe
    cases find? name d.handles with
    | none => exact ⟨rfl, _, Or.inr ⟨_, rfl⟩, Or.inl rfl⟩
    | some s => exact ⟨release_log _ s, _, Or.inr ⟨_, rfl⟩, release_bus _ s⟩
  | unsubscribe name =>
    unfold unsubscribe
    cases find? name d.handles with
    | none => exact ⟨rfl, _, Or.inl rfl, Or.inl rfl⟩
    | some s => exact ⟨release_log d s, _, Or.inl rfl, release_bus d s⟩
  | drop name =>
    unfold drop
    cases find? name d.handles with
    | none => exact ⟨rfl, _, Or.inl rfl, Or.inl rfl⟩
    | some s => exact ⟨release_log d s, _, Or.inl rfl, release_bus d s⟩
  | mount card item onFlip =>
    unfold mount
    cases find? card d.cards with
    | none => exact ⟨rfl, _, Or.inr ⟨_, rfl⟩, Or.inl rfl⟩
    | some c =>
      exact ⟨release_log _ c.subscription, _, Or.inr ⟨_, rfl⟩, release_bus _ c.subscription⟩
  | unmount card =>
    unfold unmount
    cases find? card d.cards with
    | none => exact ⟨rfl, _, Or.inl rfl, Or.inl rfl⟩
    | some c => exact ⟨release_log d c.subscription, _, Or.inl rfl, release_bus d c.subscription⟩
  | dropCard card =>
    unfold dropCard
    cases find? card d.cards with
    | none => exact ⟨rfl, _, Or.inl rfl, Or.inl rfl⟩
    | some c => exact ⟨release_log d c.subscription, _, Or.inl rfl, release_bus d c.subscription⟩
  | dropBus => exact ⟨rfl, _, Or.inl rfl, Or.inl rfl⟩

variable {d} in
theorem alters_later {d' : Deck} (h : d.Alters d') : d.bus.Later d'.bus := by
  obtain ⟨-, b, hb, hd'⟩ := alters_bus h
  have hfirst : d.bus.Later b := by
    rcases hb with rfl | ⟨handler, rfl⟩
    · exact Bus.Later.refl _
    · exact Bus.later_subscribe _ handler
  refine hfirst.trans ?_
  rcases hd' with hd' | ⟨id, hd'⟩ <;> rw [hd']
  · exact Bus.Later.refl _
  · exact Bus.later_remove _ id

theorem opening_frame (id : Nat) (e : PlaybackEvent) (h : Handler) :
    (d.opening id e h).1.bus = d.bus ∧ (d.opening id e h).1.held = d.held := by
  cases h with
  | program name reactions => exact ⟨rfl, rfl⟩
  | card name item onFlip =>
    cases e with
    | playRequested i => exact ⟨rfl, rfl⟩
    | nowPlaying i =>
      simp only [opening]
      split_ifs <;> exact ⟨rfl, rfl⟩

theorem opening_bus (id : Nat) (e : PlaybackEvent) (h : Handler) :
    (d.opening id e h).1.bus = d.bus :=
  (opening_frame d id e h).1

@[simp] theorem use_bus (id place : Nat) : (d.use id place).bus = d.bus := rfl

end Steps

/-! ## Moments -/

mutual

/-- The buses there were at the turns of a delivery and inside them, in order. -/
def Slots.moments : Slots → List Bus
  | .nil => []
  | .passed _ _ bus rest => bus :: rest.moments
  | .reached _ _ bus deeds rest => bus :: (deeds.moments ++ rest.moments)

/-- The buses there were after each deed and inside it, in order. -/
def Deeds.moments : Deeds → List Bus
  | .nil => []
  | .quiet bus rest => bus :: rest.moments
  | .round _ bus slots rest => bus :: (slots.moments ++ rest.moments)

end

mutual

/-- **All moments lie between the beginning and the end** of a delivery. -/
theorem delivered_later {e : PlaybackEvent} {handlers : List (Nat × Handler)} {d : Deck}
    {slots : Slots} {d' : Deck} :
    Delivered e handlers d slots d' →
      d.bus.Later d'.bus ∧ ∀ b ∈ slots.moments, d.bus.Later b ∧ b.Later d'.bus
  | .done => ⟨Bus.Later.refl _, fun b hb => by simp [Slots.moments] at hb⟩
  | .passed _ ht => by
    obtain ⟨h1, h2⟩ := delivered_later ht
    refine ⟨h1, fun b hb => ?_⟩
    rcases List.mem_cons.mp hb with rfl | hb
    · exact ⟨Bus.Later.refl _, h1⟩
    · exact h2 b hb
  | .reached _ hd ht => by
    obtain ⟨h1, h2⟩ := reacted_later hd
    obtain ⟨h3, h4⟩ := delivered_later ht
    rw [opening_bus] at h1 h2
    refine ⟨h1.trans h3, fun b hb => ?_⟩
    rcases List.mem_cons.mp hb with rfl | hb
    · exact ⟨Bus.Later.refl _, h1.trans h3⟩
    · rcases List.mem_append.mp hb with hb | hb
      · exact ⟨(h2 b hb).1, (h2 b hb).2.trans h3⟩
      · exact ⟨h1.trans (h4 b hb).1, (h4 b hb).2⟩

theorem reacted_later {id : Nat} {e : PlaybackEvent} {place : Nat} {reactions : List Reaction}
    {d : Deck} {deeds : Deeds} {d' : Deck} :
    Reacted id e place reactions d deeds d' →
      d.bus.Later d'.bus ∧ ∀ b ∈ deeds.moments, d.bus.Later b ∧ b.Later d'.bus
  | .nil => ⟨Bus.Later.refl _, fun b hb => by simp [Deeds.moments] at hb⟩
  | .idle _ ht => reacted_later ht
  | .quiet _ _ hs ht => by
    have h1 := alters_later (settled_alters hs)
    obtain ⟨h2, h3⟩ := reacted_later ht
    rw [use_bus] at h1
    refine ⟨h1.trans h2, fun b hb => ?_⟩
    rcases List.mem_cons.mp hb with rfl | hb
    · exact ⟨h1, h2⟩
    · exact ⟨h1.trans (h3 b hb).1, (h3 b hb).2⟩
  | .round _ _ hd ht => by
    obtain ⟨h1, h2⟩ := delivered_later hd
    obtain ⟨h3, h4⟩ := reacted_later ht
    rw [use_bus] at h1 h2
    refine ⟨h1.trans h3, fun b hb => ?_⟩
    rcases List.mem_cons.mp hb with rfl | hb
    · exact ⟨Bus.Later.refl _, h1.trans h3⟩
    · rcases List.mem_append.mp hb with hb | hb
      · exact ⟨(h2 b hb).1, (h2 b hb).2.trans h3⟩
      · exact ⟨h1.trans (h4 b hb).1, (h4 b hb).2⟩

end

/-! ## The law -/

/-- The handlers whose turns came, in order. -/
def Slots.entries : Slots → List (Nat × Handler)
  | .nil => []
  | .passed id h _ rest => (id, h) :: rest.entries
  | .reached id h _ _ rest => (id, h) :: rest.entries

mutual

/-- **The law of delivery.** A handler is passed over if it is not registered when its turn comes; a
handler that is reached was registered at every moment of the delivery so far, `past`, and still
is. -/
def Slots.Lawful : List Bus → Slots → Prop
  | _, .nil => True
  | past, .passed id h bus rest => (id, h) ∉ bus.handlers ∧ rest.Lawful (past ++ [bus])
  | past, .reached id h bus deeds rest =>
    (∀ b ∈ past ++ [bus], (id, h) ∈ b.handlers) ∧ deeds.Lawful ∧
      rest.Lawful (past ++ bus :: deeds.moments)

/-- Every delivery inside keeps the law: it comes to the turns of all handlers that were registered
when it began, of each once, in the order they subscribed. -/
def Deeds.Lawful : Deeds → Prop
  | .nil => True
  | .quiet _ rest => rest.Lawful
  | .round _ bus slots rest =>
    bus.Numbered ∧ slots.entries = bus.handlers ∧ slots.Lawful [bus] ∧ rest.Lawful

end

theorem delivered_entries {e : PlaybackEvent} {handlers : List (Nat × Handler)} {d : Deck}
    {slots : Slots} {d' : Deck} (h : Delivered e handlers d slots d') :
    slots.entries = handlers := by
  induction handlers generalizing d slots with
  | nil => cases h; rfl
  | cons p rest ih =>
    cases h with
    | passed _ ht => rw [Slots.entries, ih ht]
    | reached _ _ ht => rw [Slots.entries, ih ht]

mutual

/-- **Every delivery keeps the law.** `start` is the bus with which it began. -/
theorem delivered_lawful {start : Bus} (hstart : start.Numbered) {e : PlaybackEvent}
    {handlers : List (Nat × Handler)} {d : Deck} {slots : Slots} {d' : Deck} {past : List Bus}
    (hn : d.bus.Numbered) (hs : start.Later d.bus) (hm : ∀ p ∈ handlers, p ∈ start.handlers)
    (hp : ∀ b ∈ past, start.Later b ∧ b.Later d.bus) :
    Delivered e handlers d slots d' → slots.Lawful past
  | .done => trivial
  | .passed hr ht => by
    refine ⟨fun hmem => ?_, ?_⟩
    · exact Bus.isRegistered_eq_false.mp hr (Bus.mem_ids_of_mem hmem)
    · refine delivered_lawful hstart hn hs (fun p h => hm p (List.mem_cons_of_mem _ h)) ?_ ht
      intro b hb
      rcases List.mem_append.mp hb with hb | hb
      · exact hp b hb
      · rw [List.mem_singleton.mp hb]
        exact ⟨hs, Bus.Later.refl _⟩
  | .reached hr hd ht => by
    have hl := reacted_later hd
    rw [opening_bus] at hl
    obtain ⟨h1, h2⟩ := hl
    have hreg := Bus.isRegistered_iff.mp hr
    have hstarted := hm _ List.mem_cons_self
    refine ⟨fun b hb => ?_, ?_, ?_⟩
    · rcases List.mem_append.mp hb with hb | hb
      · exact Bus.Later.mem_of_mem hstart (hp b hb).1 (hp b hb).2 hstarted hreg
      · rw [List.mem_singleton.mp hb]
        exact Bus.Later.mem_of_mem hstart hs (Bus.Later.refl _) hstarted hreg
    · exact reacted_lawful (by rw [opening_bus]; exact hn) hd
    · refine delivered_lawful hstart (h1.numbered hn) (hs.trans h1)
        (fun p h => hm p (List.mem_cons_of_mem _ h)) ?_ ht
      intro b hb
      rcases List.mem_append.mp hb with hb | hb
      · exact ⟨(hp b hb).1, (hp b hb).2.trans h1⟩
      · rcases List.mem_cons.mp hb with rfl | hb
        · exact ⟨hs, h1⟩
        · exact ⟨hs.trans (h2 b hb).1, (h2 b hb).2⟩

theorem reacted_lawful {id : Nat} {e : PlaybackEvent} {place : Nat} {reactions : List Reaction}
    {d : Deck} {deeds : Deeds} {d' : Deck} (hn : d.bus.Numbered) :
    Reacted id e place reactions d deeds d' → deeds.Lawful
  | .nil => trivial
  | .idle _ ht => reacted_lawful hn ht
  | .quiet _ _ hs ht => by
    have h1 := alters_later (settled_alters hs)
    rw [use_bus] at h1
    rw [Deeds.Lawful]
    exact reacted_lawful (h1.numbered hn) ht
  | .round _ _ hd ht => by
    have h1 := (delivered_later hd).1
    rw [use_bus] at h1
    refine ⟨hn, delivered_entries hd, ?_, reacted_lawful (h1.numbered hn) ht⟩
    refine delivered_lawful (d := d.use id place) hn hn (Bus.Later.refl _) (fun p h => h) ?_ hd
    intro b hb
    rw [List.mem_singleton.mp hb]
    exact ⟨Bus.Later.refl _, Bus.Later.refl _⟩

end

/-! ## What the handlers took note of -/

/-- What is noted when a handler is reached by an event. -/
def noted (id : Nat) (e : PlaybackEvent) : Handler → List Happening
  | .program name _ => [.handled id name e]
  | .card .. => []

mutual

/-- What the handlers that were reached took note of, in order, with all that they set off. -/
def Slots.noted (e : PlaybackEvent) : Slots → List Happening
  | .nil => []
  | .passed _ _ _ rest => rest.noted e
  | .reached id h _ deeds rest => Deck.noted id e h ++ deeds.noted ++ rest.noted e

/-- What the deliveries inside led to. -/
def Deeds.noted : Deeds → List Happening
  | .nil => []
  | .quiet _ rest => rest.noted
  | .round e _ slots rest => slots.noted e ++ rest.noted

end

theorem opening_noted (d : Deck) (id : Nat) (e : PlaybackEvent) (h : Handler) :
    (d.opening id e h).1.log.filter Happening.isHandled =
      d.log.filter Happening.isHandled ++ noted id e h := by
  cases h with
  | program name reactions =>
    rw [opening, noted, List.filter_append]
    rfl
  | card name item onFlip =>
    cases e with
    | playRequested i => simp [opening, noted]
    | nowPlaying i =>
      simp only [opening, noted, List.append_nil]
      split_ifs
      · simp [List.filter_append, Happening.isHandled, setPlaying]
      · rfl

mutual

/-- **The log names those that were reached**, in order. -/
theorem delivered_noted {e : PlaybackEvent} {handlers : List (Nat × Handler)} {d : Deck}
    {slots : Slots} {d' : Deck} :
    Delivered e handlers d slots d' →
      d'.log.filter Happening.isHandled = d.log.filter Happening.isHandled ++ slots.noted e
  | .done => by rw [Slots.noted, List.append_nil]
  | .passed _ ht => by rw [Slots.noted, delivered_noted ht]
  | .reached _ hd ht => by
    rw [delivered_noted ht, reacted_noted hd, opening_noted, Slots.noted, List.append_assoc,
      List.append_assoc, List.append_assoc]

theorem reacted_noted {id : Nat} {e : PlaybackEvent} {place : Nat} {reactions : List Reaction}
    {d : Deck} {deeds : Deeds} {d' : Deck} :
    Reacted id e place reactions d deeds d' →
      d'.log.filter Happening.isHandled = d.log.filter Happening.isHandled ++ deeds.noted
  | .nil => by rw [Deeds.noted, List.append_nil]
  | .idle _ ht => reacted_noted ht
  | .quiet _ _ hs ht => by
    rw [reacted_noted ht, (alters_bus (settled_alters hs)).1, Deeds.noted]
    rfl
  | .round _ _ hd ht => by
    rw [reacted_noted ht, delivered_noted hd, Deeds.noted, List.append_assoc]
    rfl

end

/-! ## Deliveries that return -/

theorem published?_of_isQuiet {event : Option PlaybackEvent} {d : Deck} {s : Step}
    (h : s.isQuiet = true) : published? event d s = none := by
  cases s <;> first | rfl | simp [Step.isQuiet] at h

/-- Reactions of which the event sets off only such as publish nothing come to an end, however
events are delivered. -/
theorem react_of_quiet (deliver : Delivery) (id : Nat) (e : PlaybackEvent) (place : Nat)
    {reactions : List Reaction} {d : Deck}
    (h : ∀ r ∈ reactions, r.trigger.fits e = true → r.step.isQuiet = true) :
    ∃ d', react deliver id e place reactions d = some d' := by
  induction reactions generalizing place d with
  | nil => exact ⟨d, rfl⟩
  | cons r rest ih =>
    have hrest := fun r' hr' => h r' (List.mem_cons_of_mem r hr')
    rw [react_cons]
    split_ifs with hr
    · rw [runs, Bool.and_eq_true] at hr
      have hq := h r List.mem_cons_self hr.1
      rw [perform_of_quiet (published?_of_isQuiet hq), Option.bind_some]
      exact ih _ hrest
    · exact ih _ hrest

theorem opening_reactions (d : Deck) (id : Nat) (e : PlaybackEvent) (h : Handler) :
    (d.opening id e h).2.Sublist (reactionsOf h) := by
  cases h with
  | program name reactions => exact List.Sublist.refl _
  | card name item onFlip =>
    cases e with
    | playRequested i => exact List.nil_sublist _
    | nowPlaying i =>
      simp only [opening]
      split_ifs
      · exact List.Sublist.refl _
      · exact List.nil_sublist _

theorem deliverTo_of_quiet (deliver : Delivery) {e : PlaybackEvent}
    {handlers : List (Nat × Handler)} {d : Deck}
    (h : ∀ p ∈ handlers, ∀ r ∈ reactionsOf p.2, r.trigger.fits e = true → r.step.isQuiet = true) :
    ∃ d', deliverTo deliver e handlers d = some d' := by
  induction handlers generalizing d with
  | nil => exact ⟨d, rfl⟩
  | cons p rest ih =>
    obtain ⟨id, handler⟩ := p
    have hrest := fun p' hp' => h p' (List.mem_cons_of_mem (id, handler) hp')
    rw [deliverTo_cons]
    split_ifs with hr
    · have hfirst : ∀ r ∈ (d.opening id e handler).2,
          r.trigger.fits e = true → r.step.isQuiet = true :=
        fun r hm => h _ List.mem_cons_self r ((opening_reactions d id e handler).subset hm)
      obtain ⟨d₁, hd₁⟩ := react_of_quiet deliver id e 0 hfirst
      rw [hd₁, Option.bind_some]
      exact ih hrest
    · exact ih hrest

theorem played_numbered {steps : List Step} {d d' : Deck} {deeds : Deeds}
    (h : Played steps d deeds d') (hd : d.bus.Numbered) : d'.bus.Numbered := by
  induction h with
  | nil => exact hd
  | quiet _ hs _ ih => exact ih ((alters_later (settled_alters hs)).numbered hd)
  | round _ hdel _ ih => exact ih ((delivered_later hdel).1.numbered hd)

theorem run_numbered {origin : String} {steps : List Step} {d : Deck} {answers : List Answer}
    (h : (start origin).run steps = some (d, answers)) : d.bus.Numbered := by
  obtain ⟨deeds, hp⟩ := played_of_run h
  exact played_numbered hp (Bus.numbered_start origin)

/-- **The law of delivery.** Every delivery that returns has a course, in which the turns of all
handlers that were registered when it began come, of each once, in the order they subscribed. A
handler is reached in its turn exactly if it is registered then, and if it is, it was at every
moment of the delivery: whoever left before, also in a delivery inside, is passed over, and whoever
joined meanwhile has no turn. All deliveries inside come to their end first and keep the same law.
The log names the handlers that were reached, in this order. When no handler publishes anything of
its own for the event, the delivery returns. -/
theorem delivery_law {d : Deck} (hd : d.bus.Numbered) (e : PlaybackEvent) :
    (∀ depth d', publish depth d e = some d' →
      ∃ slots, Delivered e d.bus.handlers d slots d' ∧ slots.entries = d.bus.handlers ∧
        slots.Lawful [d.bus] ∧ d'.bus.Numbered ∧
        d'.log.filter Happening.isHandled =
          d.log.filter Happening.isHandled ++ slots.noted e) ∧
    ((∀ p ∈ d.bus.handlers, ∀ r ∈ reactionsOf p.2,
        r.trigger.fits e = true → r.step.isQuiet = true) →
      ∀ depth, ∃ d', publish (depth + 1) d e = some d') := by
  refine ⟨fun depth d' h => ?_, fun hq depth => deliverTo_of_quiet _ hq⟩
  obtain ⟨slots, hs⟩ := delivered_of_publish h
  have hpast : ∀ b ∈ [d.bus], d.bus.Later b ∧ b.Later d.bus := by
    intro b hb
    rw [List.mem_singleton.mp hb]
    exact ⟨Bus.Later.refl _, Bus.Later.refl _⟩
  exact ⟨slots, hs, delivered_entries hs,
    delivered_lawful hd hd (Bus.Later.refl _) (fun p h => h) hpast hs,
    (delivered_later hs).1.numbered hd, delivered_noted hs⟩

/-- The first of three handlers asks for an item when one is played, and the last one then ends the
subscription of the second and subscribes a fourth one: the second is reached by the request and
passed over by the event around it, and the fourth hears neither. The request alone sets off nothing
that publishes. -/
theorem delivery_law_of_three_handlers :
    let item := Item.pin { rowId := 1 }
    let first := [Reaction.on (.kind .nowPlaying) none (.publish (.playRequested item))]
    let last := [Reaction.on (.kind .playRequested) none (.unsubscribe "second"),
      .on (.kind .playRequested) none (.subscribe "fourth" [])]
    let d := (((start localOrigin).subscribe "first" first).subscribe "second" []).subscribe "last"
      last
    ∃ d' slots, publish 2 d (.nowPlaying item) = some d' ∧ d'.bus.ids = [0, 2, 3] ∧
      Delivered (.nowPlaying item) d.bus.handlers d slots d' ∧ slots.Lawful [d.bus] ∧
      slots.noted (.nowPlaying item) =
        [.handled 0 "first" (.nowPlaying item), .handled 0 "first" (.playRequested item),
          .handled 1 "second" (.playRequested item), .handled 2 "last" (.playRequested item),
          .handled 2 "last" (.nowPlaying item)] ∧
      ∃ d'', publish 1 d (.playRequested item) = some d'' := by
  intro item first last d
  have hd : d.bus.Numbered := ⟨by decide, by decide⟩
  have hp : publish 2 d (.nowPlaying item) = some _ := rfl
  obtain ⟨slots, hs, -, hl, -, hlog⟩ := (delivery_law hd (.nowPlaying item)).1 2 _ hp
  exact ⟨_, slots, hp, rfl, hs, hl, hlog.symm,
    (delivery_law hd (.playRequested item)).2 (by decide) 0⟩

end Deck

end ListenDeck
