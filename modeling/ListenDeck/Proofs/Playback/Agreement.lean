import ListenDeck.Proofs.Playback.Ledger

/-!
# What the cards show

* `Deck.Follows`: a mounted card is marked if what it heard last is its item. It is so in every deck
  that arises (`played_follows`).
* `Deck.Agreed`: no two mounted cards are marked for different items.
* `Deeds.Steady`: inside the delivery of what is played now, nothing else is said to be played.
* `Deck.cards_agree`: when the cards agree; in steady runs they do. `Deck.clash` is a run for any
  two items that is not steady, and its cards do not agree (`clash_disagrees`).
-/

namespace ListenDeck

namespace Bus

/-- The handlers were registered at some time; whoever of them is registered still is the same. -/
def Knew (b : Bus) (handlers : List (Nat × Handler)) : Prop :=
  ∀ p ∈ handlers, p.1 < b.nextId ∧ (p.1 ∈ b.ids → p ∈ b.handlers)

theorem Numbered.knew {b : Bus} (hb : b.Numbered) : b.Knew b.handlers :=
  fun _ hp => ⟨hb.below _ (mem_ids_of_mem hp), fun _ => hp⟩

theorem Knew.tail {b : Bus} {p : Nat × Handler} {rest : List (Nat × Handler)}
    (h : b.Knew (p :: rest)) : b.Knew rest :=
  fun q hq => h q (List.mem_cons_of_mem _ hq)

theorem Knew.mem {b : Bus} {p : Nat × Handler} {rest : List (Nat × Handler)}
    (h : b.Knew (p :: rest)) (hr : b.isRegistered p.1 = true) : p ∈ b.handlers :=
  (h p List.mem_cons_self).2 (isRegistered_iff.mp hr)

theorem Knew.later {b b' : Bus} {handlers : List (Nat × Handler)} (h : b.Knew handlers)
    (hb : b.Numbered) (hl : b.Later b') : b'.Knew handlers := by
  intro p hp
  obtain ⟨hlt, hsame⟩ := h p hp
  refine ⟨Nat.lt_of_lt_of_le hlt hl.nextId, fun hm => ?_⟩
  obtain ⟨x, hx⟩ := mem_ids.mp hm
  rcases hl.old _ hx with hx' | hge
  · have hp' := hsame (mem_ids_of_mem hx')
    have : p.2 = x := hb.eq_of_mem hp' hx'
    rw [← this] at hx
    exact hx
  · simp only at hge
    omega

end Bus

/-- What is played inside the delivery of an event, where nothing else is said to be. -/
def PlaybackEvent.within (around : Option Item) : PlaybackEvent → Option Item
  | .nowPlaying x => some x
  | .playRequested _ => around

namespace Deck

open Named

/-! ## What a card heard last -/

mutual

/-- What the handler of a number heard of, in order: each event that reached it before those that
were published in its turn. -/
def Slots.heardBy (id : Nat) (e : PlaybackEvent) : Slots → List Item
  | .nil => []
  | .passed _ _ _ rest => rest.heardBy id e
  | .reached n _ _ deeds rest =>
    (if n = id then e.announced else []) ++ (deeds.heardBy id ++ rest.heardBy id e)

/-- What the handler of a number heard of in the deliveries inside. -/
def Deeds.heardBy (id : Nat) : Deeds → List Item
  | .nil => []
  | .quiet _ rest => rest.heardBy id
  | .round e _ slots rest => slots.heardBy id e ++ rest.heardBy id

end

/-- A mounted card is marked if what it heard last is its item. -/
structure Follows (d : Deck) (heard : Nat → List Item) : Prop where
  marked : ∀ p ∈ d.cards, p.2.subscription.active = true →
    p.2.playing = decide ((heard p.2.subscription.id).getLast? = some p.2.item)
  unborn : ∀ id, d.bus.nextId ≤ id → heard id = []

section Follows
variable {d : Deck} {heard : Nat → List Item}

theorem Follows.log (h : d.Follows heard) (log : List Happening) : { d with log }.Follows heard :=
  ⟨h.marked, h.unborn⟩

theorem Follows.use (h : d.Follows heard) (id place : Nat) : (d.use id place).Follows heard :=
  ⟨h.marked, h.unborn⟩

theorem alters_follows (h : d.Follows heard) {d' : Deck} (hd : d.Alters d') :
    d'.Follows heard := by
  refine ⟨fun p hp ha => ?_, fun id hid => h.unborn id ?_⟩
  · rcases alters_cards hd hp ha with hp | ⟨hplaying, hid⟩
    · exact h.marked p hp ha
    · rw [hid, h.unborn _ (Nat.le_refl _), hplaying]
      rfl
  · exact Nat.le_trans (alters_later hd).nextId hid

theorem opening_follows (hs : d.Sound) (h : d.Follows heard) {id : Nat} {handler : Handler}
    (hm : (id, handler) ∈ d.bus.handlers) (e : PlaybackEvent) :
    (d.opening id e handler).1.Follows
      fun n => heard n ++ if id = n then e.announced else [] := by
  refine ⟨fun p hp ha => ?_, fun n hn => ?_⟩
  · rw [opening_cards hs hm] at hp
    obtain ⟨q, hq, rfl⟩ := List.mem_map.mp hp
    split_ifs at ha ⊢ with hid hid' hid'
    · cases e with
      | nowPlaying x =>
        simp only [PlaybackEvent.announced, Card.heard, List.getLast?_concat, Option.some.injEq]
      | playRequested x =>
        simp only [PlaybackEvent.announced, List.append_nil]
        exact h.marked q hq ha
    · exact absurd (by cases e <;> exact hid.symm) hid'
    · exact absurd hid'.symm hid
    · rw [List.append_nil]
      exact h.marked q hq ha
  · rw [opening_bus] at hn
    have hlt := hs.numbered.below id (Bus.mem_ids_of_mem hm)
    rw [h.unborn n hn, if_neg (by omega), List.append_nil]

end Follows

mutual

theorem delivered_follows {e : PlaybackEvent} {handlers : List (Nat × Handler)} {d : Deck}
    {slots : Slots} {d' : Deck} {heard : Nat → List Item} (hs : d.Sound)
    (hk : d.bus.Knew handlers) (h : d.Follows heard) :
    Delivered e handlers d slots d' → d'.Follows fun n => heard n ++ slots.heardBy n e
  | .done => by
    simp only [Slots.heardBy, List.append_nil]
    exact h
  | .passed _ ht => by
    simp only [Slots.heardBy]
    exact delivered_follows hs hk.tail h ht
  | .reached hr hd ht => by
    have hl := (reacted_later hd).1
    rw [opening_bus] at hl
    have hopen := opening_follows hs h (hk.mem hr) e
    have hreact := reacted_follows (opening_sound hs _ _ _) hopen hd
    have hrest := delivered_follows (reacted_sound (opening_sound hs _ _ _) hd)
      (hk.tail.later hs.numbered hl) hreact ht
    simpa only [Slots.heardBy, List.append_assoc] using hrest

theorem reacted_follows {id : Nat} {e : PlaybackEvent} {place : Nat} {reactions : List Reaction}
    {d : Deck} {deeds : Deeds} {d' : Deck} {heard : Nat → List Item} (hs : d.Sound)
    (h : d.Follows heard) :
    Reacted id e place reactions d deeds d' → d'.Follows fun n => heard n ++ deeds.heardBy n
  | .nil => by
    simp only [Deeds.heardBy, List.append_nil]
    exact h
  | .idle _ ht => reacted_follows hs h ht
  | .quiet _ _ ha ht => by
    have ha := settled_alters ha
    simp only [Deeds.heardBy]
    exact reacted_follows (alters_sound (use_sound hs _ _) ha) (alters_follows (h.use _ _) ha) ht
  | .round _ _ hd ht => by
    have hu := use_sound hs id place
    have hf := delivered_follows hu hs.numbered.knew (h.use _ _) hd
    have hrest := reacted_follows (delivered_sound hu hd) hf ht
    simpa only [Deeds.heardBy, List.append_assoc] using hrest

end

/-- **What the cards show**: of steps by hand, whatever the handlers do, every mounted card shows
whether what it heard last is its item. -/
theorem played_follows {steps : List Step} {d d' : Deck} {deeds : Deeds}
    (hp : Played steps d deeds d') (hs : d.Sound) {heard : Nat → List Item} (h : d.Follows heard) :
    d'.Follows fun n => heard n ++ deeds.heardBy n := by
  induction hp generalizing heard with
  | nil =>
    simp only [Deeds.heardBy, List.append_nil]
    exact h
  | quiet _ ha _ ih =>
    have ha := settled_alters ha
    exact ih (alters_sound (log_sound hs []) ha) (alters_follows (h.log []) ha)
  | round _ hd _ ih =>
    have hl := log_sound hs []
    have hf := delivered_follows hl hs.numbered.knew (h.log []) hd
    have hrest := ih (delivered_sound hl hd) hf
    simpa only [Deeds.heardBy, List.append_assoc] using hrest

/-! ## Agreement -/

/-- **The cards agree** about what is played: no two mounted cards are marked for different
items. -/
def Agreed (d : Deck) : Prop :=
  ∀ p ∈ d.cards, ∀ q ∈ d.cards, p.2.subscription.active = true → q.2.subscription.active = true →
    p.2.playing = true → q.2.playing = true → p.2.item = q.2.item

instance (d : Deck) : Decidable d.Agreed :=
  inferInstanceAs (Decidable (∀ p ∈ d.cards, ∀ q ∈ d.cards, _))

theorem agreed_iff {d : Deck} {heard : Nat → List Item} (h : d.Follows heard) :
    d.Agreed ↔ ∀ p ∈ d.cards, ∀ q ∈ d.cards,
      p.2.subscription.active = true → q.2.subscription.active = true →
      (heard p.2.subscription.id).getLast? = some p.2.item →
      (heard q.2.subscription.id).getLast? = some q.2.item → p.2.item = q.2.item := by
  have hmark : ∀ p ∈ d.cards, p.2.subscription.active = true →
      (p.2.playing = true ↔ (heard p.2.subscription.id).getLast? = some p.2.item) := by
    intro p hp ha
    rw [h.marked p hp ha, decide_eq_true_eq]
  constructor
  · intro hagreed p hp q hq hpa hqa hpx hqx
    exact hagreed p hp q hq hpa hqa ((hmark p hp hpa).mpr hpx) ((hmark q hq hqa).mpr hqx)
  · intro hsame p hp q hq hpa hqa hpm hqm
    exact hsame p hp q hq hpa hqa ((hmark p hp hpa).mp hpm) ((hmark q hq hqa).mp hqm)

mutual

/-- Inside the delivery of what is played now, `around`, nothing else is said to be played. -/
def Slots.Steady (around : Option Item) : Slots → Prop
  | .nil => True
  | .passed _ _ _ rest => rest.Steady around
  | .reached _ _ _ deeds rest => deeds.Steady around ∧ rest.Steady around

/-- No event inside says that anything but `around` is played. -/
def Deeds.Steady (around : Option Item) : Deeds → Prop
  | .nil => True
  | .quiet _ rest => rest.Steady around
  | .round e _ slots rest =>
    (around = none ∨ e.within around = around) ∧ slots.Steady (e.within around) ∧
      rest.Steady around

end

/-- Every mounted card that is marked is marked for this item, or is still to hear of it. -/
def On (d : Deck) (x : Item) (late : List Nat) : Prop :=
  ∀ p ∈ d.cards, p.2.subscription.active = true → p.2.playing = true →
    p.2.item = x ∨ p.2.subscription.id ∈ late

section On
variable {d : Deck} {x : Item} {late : List Nat}

theorem alters_on (h : d.On x late) {d' : Deck} (hd : d.Alters d') : d'.On x late := by
  intro p hp ha hm
  rcases alters_cards hd hp ha with hp | ⟨hplaying, -⟩
  · exact h p hp ha hm
  · rw [hm] at hplaying
    cases hplaying

theorem On.mono {late' : List Nat} (h : d.On x late) (hl : ∀ id ∈ late, id ∈ late') :
    d.On x late' := by
  intro p hp ha hm
  rcases h p hp ha hm with hx | hid
  · exact Or.inl hx
  · exact Or.inr (hl _ hid)

/-- Those of the handlers that are still to hear what is played. -/
def due (handlers : List (Nat × Handler)) : PlaybackEvent → List Nat
  | .nowPlaying _ => handlers.map Prod.fst
  | .playRequested _ => []

theorem mem_due_of_ne {e : PlaybackEvent} {p : Nat × Handler} {rest : List (Nat × Handler)}
    {n : Nat} (h : n ∈ due (p :: rest) e) (hn : n ≠ p.1) : n ∈ due rest e := by
  cases e with
  | nowPlaying y =>
    rcases List.mem_cons.mp h with rfl | h
    · exact absurd rfl hn
    · exact h
  | playRequested y => exact h

theorem On.passed {e : PlaybackEvent} {p : Nat × Handler} {rest : List (Nat × Handler)}
    (h : d.On x (due (p :: rest) e ++ late)) (hs : d.Sound)
    (hr : d.bus.isRegistered p.1 = false) : d.On x (due rest e ++ late) := by
  intro q hq ha hm
  rcases h q hq ha hm with hx | hid
  · exact Or.inl hx
  · have hne : q.2.subscription.id ≠ p.1 := by
      intro he
      rw [← he] at hr
      exact Bus.isRegistered_eq_false.mp hr (hs.mem_ids hq ha)
    rcases List.mem_append.mp hid with hid | hid
    · exact Or.inr (List.mem_append_left _ (mem_due_of_ne hid hne))
    · exact Or.inr (List.mem_append_right _ hid)

/-- The card of the handler that was reached hears of the item. -/
theorem On.reached {e : PlaybackEvent} {p : Nat × Handler} {rest : List (Nat × Handler)}
    (h : d.On x (due (p :: rest) e ++ late)) (hs : d.Sound) (hm : p ∈ d.bus.handlers)
    (he : e.within (some x) = some x) :
    (d.opening p.1 e p.2).1.On x (due rest e ++ late) := by
  intro q hq ha hmark
  rw [opening_cards hs hm] at hq
  obtain ⟨c, hc, rfl⟩ := List.mem_map.mp hq
  cases e with
  | playRequested y =>
    have hsame : (if c.2.subscription.id = p.1 then (c.1, c.2.heard (.playRequested y)) else c)
        = c := by split_ifs <;> rfl
    rw [hsame] at ha hmark ⊢
    exact h c hc ha hmark
  | nowPlaying y =>
    simp only [PlaybackEvent.within, Option.some.injEq] at he
    split_ifs at ha hmark ⊢ with hid
    · exact Or.inl (he ▸ (of_decide_eq_true hmark).symm)
    · rcases h c hc ha hmark with hx | hl
      · exact Or.inl hx
      · rcases List.mem_append.mp hl with hl | hl
        · exact Or.inr (List.mem_append_left _ (mem_due_of_ne hl hid))
        · exact Or.inr (List.mem_append_right _ hl)

end On

mutual

/-- **All around one item.** At the end of a delivery inside that of an item, whoever was still to
hear of the item in this delivery did. -/
theorem delivered_on {x : Item} {late : List Nat} {e : PlaybackEvent}
    {handlers : List (Nat × Handler)} {d : Deck} {slots : Slots} {d' : Deck} (hs : d.Sound)
    (hk : d.bus.Knew handlers) (he : e.within (some x) = some x)
    (h : d.On x (due handlers e ++ late)) (ht : slots.Steady (some x)) :
    Delivered e handlers d slots d' → d'.On x late
  | .done => h.mono fun id hid => by cases e <;> exact hid
  | .passed hr hrest => by
    rw [Slots.Steady] at ht
    exact delivered_on hs hk.tail he (h.passed hs hr) ht hrest
  | .reached hr hd hrest => by
    rw [Slots.Steady] at ht
    have hl := (reacted_later hd).1
    rw [opening_bus] at hl
    have hreact := reacted_on (opening_sound hs _ _ _) (h.reached hs (hk.mem hr) he) ht.1 hd
    have hsound := reacted_sound (opening_sound hs _ _ _) hd
    exact delivered_on hsound (hk.tail.later hs.numbered hl) he hreact ht.2 hrest

theorem reacted_on {x : Item} {late : List Nat} {id : Nat} {e : PlaybackEvent} {place : Nat}
    {reactions : List Reaction} {d : Deck} {deeds : Deeds} {d' : Deck} (hs : d.Sound)
    (h : d.On x late) (ht : deeds.Steady (some x)) :
    Reacted id e place reactions d deeds d' → d'.On x late
  | .nil => h
  | .idle _ hrest => reacted_on hs h ht hrest
  | .quiet _ _ ha hrest => by
    rw [Deeds.Steady] at ht
    have ha := settled_alters ha
    have hu : (d.use id place).On x late := h
    exact reacted_on (alters_sound (use_sound hs _ _) ha) (alters_on hu ha) ht hrest
  | .round _ _ hd hrest => by
    rw [Deeds.Steady] at ht
    obtain ⟨he, ht, htrest⟩ := ht
    have he := he.resolve_left (Option.some_ne_none x)
    rw [he] at ht
    have hu := use_sound hs id place
    have hin : (d.use id place).On x late := h
    have hinside := delivered_on hu hs.numbered.knew he
      (hin.mono fun n hn => List.mem_append_right _ hn) ht hd
    exact reacted_on (delivered_sound hu hd) hinside htrest hrest

end

theorem On.agreed {d : Deck} {x : Item} (h : d.On x []) : d.Agreed := by
  intro p hp q hq hpa hqa hpm hqm
  have hpx := (h p hp hpa hpm).resolve_right List.not_mem_nil
  have hqx := (h q hq hqa hqm).resolve_right List.not_mem_nil
  rw [hpx, hqx]

theorem alters_agreed {d d' : Deck} (h : d.Agreed) (hd : d.Alters d') : d'.Agreed := by
  have hold : ∀ p ∈ d'.cards, p.2.subscription.active = true → p.2.playing = true →
      p ∈ d.cards := by
    intro p hp ha hm
    refine (alters_cards hd hp ha).resolve_right fun hnew => ?_
    rw [hm] at hnew
    cases hnew.1
  intro p hp q hq hpa hqa hpm hqm
  exact h p (hold p hp hpa hpm) q (hold q hq hqa hqm) hpa hqa hpm hqm

/-- **What is played, delivered with nothing else around it**, brings the cards into agreement. -/
theorem nowPlaying_agreed {x : Item} {e : PlaybackEvent} (he : e.within none = some x) {d : Deck}
    {slots : Slots} {d' : Deck} (hs : d.Sound) (ht : slots.Steady (some x))
    (hd : Delivered e d.bus.handlers d slots d') : d'.Agreed := by
  cases e with
  | playRequested y => cases he
  | nowPlaying y =>
    have hx : (PlaybackEvent.nowPlaying y).within (some x) = some x := he
    have hall : d.On x (due d.bus.handlers (.nowPlaying y) ++ []) := by
      intro p hp ha _
      rw [List.append_nil]
      exact Or.inr (hs.mem_ids hp ha)
    exact (delivered_on hs hs.numbered.knew hx hall ht hd).agreed

theorem opening_agreed {d : Deck} (h : d.Agreed) {e : PlaybackEvent} (he : e.within none = none)
    (id : Nat) (handler : Handler) : (d.opening id e handler).1.Agreed := by
  cases e with
  | nowPlaying x => cases he
  | playRequested x => cases handler <;> exact h

mutual

theorem request_agreed {e : PlaybackEvent} {handlers : List (Nat × Handler)} {d : Deck}
    {slots : Slots} {d' : Deck} (hs : d.Sound) (h : d.Agreed) (he : e.within none = none)
    (ht : slots.Steady none) : Delivered e handlers d slots d' → d'.Agreed
  | .done => h
  | .passed _ hrest => by
    rw [Slots.Steady] at ht
    exact request_agreed hs h he ht hrest
  | .reached _ hd hrest => by
    rw [Slots.Steady] at ht
    have hreact := reacted_agreed (opening_sound hs _ _ _) (opening_agreed h he _ _) ht.1 hd
    exact request_agreed (reacted_sound (opening_sound hs _ _ _) hd) hreact he ht.2 hrest

theorem reacted_agreed {id : Nat} {e : PlaybackEvent} {place : Nat} {reactions : List Reaction}
    {d : Deck} {deeds : Deeds} {d' : Deck} (hs : d.Sound) (h : d.Agreed)
    (ht : deeds.Steady none) : Reacted id e place reactions d deeds d' → d'.Agreed
  | .nil => h
  | .idle _ hrest => reacted_agreed hs h ht hrest
  | .quiet _ _ ha hrest => by
    rw [Deeds.Steady] at ht
    have ha := settled_alters ha
    have hu : (d.use id place).Agreed := h
    exact reacted_agreed (alters_sound (use_sound hs _ _) ha) (alters_agreed hu ha) ht hrest
  | .round _ _ hd hrest => by
    rename_i r rest d₁ inner slots deeds _ _
    rw [Deeds.Steady] at ht
    obtain ⟨-, ht, htrest⟩ := ht
    have hu := use_sound hs id place
    have hin : (d.use id place).Agreed := h
    refine reacted_agreed (delivered_sound hu hd) ?_ htrest hrest
    cases he : inner.within none with
    | some x => exact nowPlaying_agreed he hu (he ▸ ht) hd
    | none => exact request_agreed hu hin he (he ▸ ht) hd

end

/-- **Steady steps keep the cards in agreement.** -/
theorem played_agreed {steps : List Step} {d d' : Deck} {deeds : Deeds}
    (hp : Played steps d deeds d') (hs : d.Sound) (h : d.Agreed) (ht : deeds.Steady none) :
    d'.Agreed := by
  induction hp with
  | nil => exact h
  | @quiet s rest d d₁ d' deeds _ ha _ ih =>
    rw [Deeds.Steady] at ht
    have ha := settled_alters ha
    have hl : { d with log := [] }.Agreed := h
    exact ih (alters_sound (log_sound hs []) ha) (alters_agreed hl ha) ht
  | @round s rest d d₁ d' e slots deeds _ hd _ ih =>
    rw [Deeds.Steady] at ht
    obtain ⟨-, ht, htrest⟩ := ht
    have hl := log_sound hs []
    have hin : { d with log := [] }.Agreed := h
    refine ih (delivered_sound hl hd) ?_ htrest
    cases he : e.within none with
    | some x => exact nowPlaying_agreed he hl (he ▸ ht) hd
    | none => exact request_agreed hl hin he (he ▸ ht) hd

/-- **When the cards agree.** Of whatever is done by hand and by whatever handlers: every mounted
card shows whether what it heard last is its item; so the cards agree exactly if all those that
heard of their own item last heard of the same one, and they do if inside no delivery of what is
played anything else is said to be played. -/
theorem cards_agree {origin : String} {steps : List Step} {deeds : Deeds} {d : Deck}
    (h : Played steps (start origin) deeds d) :
    d.Follows (fun id => deeds.heardBy id) ∧
    (d.Agreed ↔ ∀ p ∈ d.cards, ∀ q ∈ d.cards,
      p.2.subscription.active = true → q.2.subscription.active = true →
      (deeds.heardBy p.2.subscription.id).getLast? = some p.2.item →
      (deeds.heardBy q.2.subscription.id).getLast? = some q.2.item → p.2.item = q.2.item) ∧
    (deeds.Steady none → d.Agreed) := by
  have hstart : (start origin).Follows fun _ => [] := ⟨by simp [start], fun _ _ => rfl⟩
  have hf : d.Follows fun id => deeds.heardBy id := played_follows h (sound_start origin) hstart
  exact ⟨hf, agreed_iff hf, played_agreed h (sound_start origin) (by simp [Agreed, start])⟩

/-- A card asks for its item, and a handler between the cards says that it is played. -/
theorem cards_agree_of_request :
    let x := Item.pin { rowId := 1 }
    let y := Item.pin { rowId := 2 }
    ∃ deeds d, Played [.mount "before" x [],
        .subscribe "between" [.on (.kind .playRequested) none .confirm], .mount "after" y [],
        .play "before"] (start localOrigin) deeds d ∧
      deeds.Steady none ∧ d.Agreed ∧
      d.cards.map (fun p => (p.1, p.2.playing)) = [("before", true), ("after", false)] := by
  intro x y
  have hp : Played [.mount "before" x [],
      .subscribe "between" [.on (.kind .playRequested) none .confirm], .mount "after" y [],
      .play "before"] (start localOrigin) _ _ :=
    .quiet rfl rfl <| .quiet rfl rfl <| .quiet rfl rfl <| .round rfl
      (.reached rfl .nil <| .reached rfl
        (.round rfl rfl
          (.reached rfl .nil <| .reached rfl (.idle rfl .nil) <| .reached rfl .nil .done) .nil) <|
        .reached rfl .nil .done) .nil
  refine ⟨_, _, hp, ?steady, (cards_agree hp).2.2 ?steady, rfl⟩
  simp [Deeds.Steady, Slots.Steady, PlaybackEvent.within]

/-! ## Disagreement -/

/-- Two cards, and between them a handler that answers once that something is played with: no, that
other item is. -/
def clash (x y : Item) : List Step :=
  [.mount "before" y [],
    .subscribe "between" [.on (.kind .nowPlaying) (some 1) (.publish (.nowPlaying y))],
    .mount "after" x [], .publish (.nowPlaying x)]

/-- The deck before the last step of a clash. -/
def beforeClash (x y : Item) : Deck where
  bus := {
    origin := localOrigin
    nextId := 3
    handlers := [(0, .card "before" y []),
      (1, .program "between" [.on (.kind .nowPlaying) (some 1) (.publish (.nowPlaying y))]),
      (2, .card "after" x [])] }
  handles := [("between", { id := 1 })]
  cards := [("before", { item := y, subscription := { id := 0 } }),
    ("after", { item := x, subscription := { id := 2 } })]

theorem publish_clash {x y : Item} (h : x ≠ y) : ∃ d,
    publish 3 (beforeClash x y) (.nowPlaying x) = some d ∧ d.cards =
      [("before", { item := y, playing := true, subscription := { id := 0 } }),
        ("after", { item := x, playing := true, subscription := { id := 2 } })] := by
  have h' : y ≠ x := fun he => h he.symm
  simp [publish, deliverTo, handle, react, perform, beforeClash, Bus.isRegistered, cardOf?,
    setPlaying, Trigger.fits, Reaction.trigger, Reaction.times, Reaction.step, PlaybackEvent.kind,
    mayRun, usesOf, use, h, h']

/-- **Without steadiness the cards need not agree**, whatever the two items: each of two cards is
marked for one of them. -/
theorem clash_disagrees {x y : Item} (h : x ≠ y) : ∃ d answers,
    (start localOrigin).run (clash x y) = some (d, answers) ∧ ¬ d.Agreed := by
  obtain ⟨d, hd, hcards⟩ := publish_clash h
  have hstep : (beforeClash x y).step (.publish (.nowPlaying x)) = some (d, .silent) := by
    show (publish 3 (beforeClash x y) (.nowPlaying x)).map (·, Answer.silent) = _
    rw [hd]
    rfl
  have hrun : (start localOrigin).run (clash x y) = some (d, _) :=
    run_cons rfl (run_cons rfl (run_cons rfl (run_cons hstep rfl)))
  refine ⟨d, _, hrun, fun hagreed => ?_⟩
  have hfirst : ("before", { item := y, playing := true, subscription := { id := 0 } }) ∈
      d.cards := by simp [hcards]
  have hlast : ("after", { item := x, playing := true, subscription := { id := 2 } }) ∈
      d.cards := by simp [hcards]
  exact h (hagreed _ hlast _ hfirst rfl rfl rfl rfl)

/-- Not all cards agree: two pins, and the second one is said to be played. -/
theorem cards_disagree : ∃ d answers,
    (start localOrigin).run (clash (.pin { rowId := 2 }) (.pin { rowId := 1 })) =
      some (d, answers) ∧ ¬ d.Agreed :=
  clash_disagrees (by decide)

end Deck

end ListenDeck
