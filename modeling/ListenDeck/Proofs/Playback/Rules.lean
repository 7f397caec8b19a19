import ListenDeck.Playback.Deck
import Mathlib.Tactic.Common

/-!
# The course of a delivery

What happens during a delivery, as a tree: the turns of the handlers in order, in each turn what the
handler did, and with every event it published the delivery of that event. The rules say which trees
there are; they hold of a delivery exactly if it comes to an end.

* `Deck.published?`, `Deck.settled`: a step publishes one event and does nothing else, or it does
  something else and publishes nothing (`perform_of_published`, `perform_of_quiet`); what that can
  be is said by `Deck.Alters`.
* `Deck.Slots`, `Deck.Deeds`: the turns of a delivery, and what a handler did in its turn.
* `Deck.Delivered`, `Deck.Reacted`: the rules. A delivery has one course only (`delivered_unique`).
* `Deck.publish_iff`: a delivery returns exactly if there is a course for it; it then returns at
  every greater depth (`publish_mono`).
* `Deck.Played`: steps by hand, with all that happened; what `Deck.run` does (`played_of_run`).
-/

namespace ListenDeck.Deck

open Named

/-! ## Steps -/

/-- The event that a step publishes, if it publishes one. -/
def published? (event : Option PlaybackEvent) (d : Deck) : Step → Option PlaybackEvent
  | .publish e => if d.held then some e else none
  | .receive origin e => if d.held then if origin = d.bus.origin then some e else none else none
  | .play card =>
    (find? card d.cards).bind fun c => if c.playing then none else some (.playRequested c.item)
  | .confirm => if d.held then event.map fun e => .nowPlaying e.item else none
  | _ => none

/-- A delivery that reaches nobody. -/
def unheard : Delivery := fun d _ => some d

/-- What a step leads to and answers when nobody hears of it. -/
def settled (event : Option PlaybackEvent) (d : Deck) (s : Step) : Deck × Answer :=
  (perform unheard event d s).getD (d, .silent)

section Steps
variable {deliver : Delivery} {event : Option PlaybackEvent} {d : Deck} {s : Step}

/-- A step that publishes nothing does the same however events are delivered. -/
theorem perform_of_quiet (h : published? event d s = none) :
    perform deliver event d s = some (settled event d s) := by
  cases s with
  | publish e => simp_all [published?, settled, perform]
  | receive origin e =>
    simp only [published?] at h
    by_cases hh : d.held <;> by_cases ho : origin = d.bus.origin <;>
      simp_all [settled, perform]
  | play card =>
    simp only [published?] at h
    cases hc : find? card d.cards with
    | none => simp [settled, perform, hc]
    | some c =>
      by_cases hp : c.playing
      · simp [settled, perform, hc, hp]
      · simp [hc, hp] at h
  | confirm =>
    simp only [published?] at h
    cases event with
    | none => simp [settled, perform]
    | some e => by_cases hh : d.held <;> simp_all [settled, perform]
  | _ => simp [settled, perform]

theorem perform_of_published {e : PlaybackEvent} (h : published? event d s = some e) :
    perform deliver event d s = (deliver d e).map fun d' => (d', (settled event d s).2) := by
  cases s with
  | publish e' =>
    simp only [published?] at h
    split_ifs at h with hh
    simp_all [settled, perform, unheard]
  | receive origin e' =>
    simp only [published?] at h
    split_ifs at h with hh ho
    simp_all [settled, perform, unheard]
  | play card =>
    simp only [published?, Option.bind_eq_some_iff] at h
    obtain ⟨c, hc, h⟩ := h
    split_ifs at h with hp
    simp_all [settled, perform, unheard]
  | confirm =>
    simp only [published?] at h
    split_ifs at h with hh
    cases event with
    | none => simp at h
    | some e' => simp_all [settled, perform, unheard]
  | _ => simp [published?] at h

theorem settled_of_published {e : PlaybackEvent} (h : published? event d s = some e) :
    (settled event d s).1 = d := by
  have hp : perform unheard event d s = _ := perform_of_published h
  rw [settled, hp]
  rfl

end Steps

/-- **What a step leads to when nobody hears of it.** -/
inductive Alters (d : Deck) : Deck → Prop where
  | same : Alters d d
  | subscribe (name : String) (reactions : List Reaction) : Alters d (d.subscribe name reactions)
  | unsubscribe (name : String) : Alters d (d.unsubscribe name)
  | drop (name : String) : Alters d (d.drop name).1
  | mount (card : String) (item : Item) (onFlip : List Reaction) :
      Alters d (d.mount card item onFlip)
  | unmount (card : String) : Alters d (d.unmount card)
  | dropCard (card : String) : Alters d (d.dropCard card).1
  | dropBus : Alters d { d with held := false }

theorem settled_alters {event : Option PlaybackEvent} {d d' : Deck} {s : Step}
    (h : (settled event d s).1 = d') : d.Alters d' := by
  subst h
  cases he : published? event d s with
  | some e => rw [settled_of_published he]; exact .same
  | none =>
    cases s with
    | subscribe name reactions =>
      simp only [settled, perform, Option.getD_some]
      split_ifs
      · exact .subscribe name reactions
      · exact .same
    | mount card item onFlip =>
      simp only [settled, perform, Option.getD_some]
      split_ifs
      · exact .mount card item onFlip
      · exact .same
    | unsubscribe name => exact .unsubscribe name
    | drop name => exact .drop name
    | unmount card => exact .unmount card
    | dropCard card => exact .dropCard card
    | dropBus => exact .dropBus
    | publish e =>
      simp only [settled, perform, unheard]
      split_ifs <;> exact .same
    | receive origin e =>
      simp only [settled, perform, unheard]
      split_ifs <;> exact .same
    | play card =>
      simp only [settled, perform, unheard]
      split
      · exact .same
      · split_ifs <;> exact .same
    | confirm =>
      simp only [settled, perform, unheard]
      split
      · split_ifs <;> exact .same
      · exact .same

/-- A handler's turn up to its reactions, and the reactions: it takes note of the event, or the mark
of its card changes. -/
def opening (d : Deck) (id : Nat) (event : PlaybackEvent) : Handler → Deck × List Reaction
  | .program name reactions => ({ d with log := d.log ++ [.handled id name event] }, reactions)
  | .card name item onFlip =>
    match event with
    | .playRequested _ => (d, [])
    | .nowPlaying current =>
      let playing := decide (current = item)
      if (d.cardOf? id).any (·.2.playing ≠ playing) then
        let d := d.setPlaying id playing
        ({ d with log := d.log ++ [.flipped id name playing] }, onFlip)
      else (d, [])

theorem handle_eq (deliver : Delivery) (id : Nat) (event : PlaybackEvent) (d : Deck) (h : Handler) :
    handle deliver id event d h =
      react deliver id event 0 (d.opening id event h).2 (d.opening id event h).1 := by
  cases h with
  | program name reactions => rfl
  | card name item onFlip =>
    cases event with
    | playRequested i => rfl
    | nowPlaying i =>
      simp only [handle, opening]
      split_ifs <;> rfl

/-- The event sets off the reaction, which has times left. -/
def runs (d : Deck) (id : Nat) (event : PlaybackEvent) (place : Nat) (r : Reaction) : Bool :=
  r.trigger.fits event && d.mayRun id place r

/-! ## Courses -/

mutual

/-- The turns of a delivery, each with the handler and the bus as it was when the turn came. -/
inductive Slots where
  | nil
  /-- The handler was registered no more. -/
  | passed (id : Nat) (handler : Handler) (bus : Bus) (rest : Slots)
  /-- The handler was reached by the event. -/
  | reached (id : Nat) (handler : Handler) (bus : Bus) (deeds : Deeds) (rest : Slots)

/-- What was done, one thing after the other. -/
inductive Deeds where
  | nil
  /-- Something that published nothing, and the bus after it. -/
  | quiet (bus : Bus) (rest : Deeds)
  /-- An event was published, to the handlers of a bus. -/
  | round (event : PlaybackEvent) (bus : Bus) (slots : Slots) (rest : Deeds)

end

mutual

/-- **The delivery of an event** to a list of handlers came to an end. -/
inductive Delivered : PlaybackEvent → List (Nat × Handler) → Deck → Slots → Deck → Prop where
  | done {e : PlaybackEvent} {d : Deck} : Delivered e [] d .nil d
  | passed {e : PlaybackEvent} {id : Nat} {h : Handler} {rest : List (Nat × Handler)} {d d' : Deck}
      {slots : Slots} (hr : d.bus.isRegistered id = false) (ht : Delivered e rest d slots d') :
      Delivered e ((id, h) :: rest) d (.passed id h d.bus slots) d'
  | reached {e : PlaybackEvent} {id : Nat} {h : Handler} {rest : List (Nat × Handler)}
      {d d₁ d' : Deck} {deeds : Deeds} {slots : Slots} (hr : d.bus.isRegistered id = true)
      (hd : Reacted id e 0 (d.opening id e h).2 (d.opening id e h).1 deeds d₁)
      (ht : Delivered e rest d₁ slots d') :
      Delivered e ((id, h) :: rest) d (.reached id h d.bus deeds slots) d'

/-- **The reactions of a handler**, from a place on, came to an end. What is published is delivered
to the end before the handler goes on. -/
inductive Reacted : Nat → PlaybackEvent → Nat → List Reaction → Deck → Deeds → Deck → Prop where
  | nil {id : Nat} {e : PlaybackEvent} {place : Nat} {d : Deck} : Reacted id e place [] d .nil d
  | idle {id : Nat} {e : PlaybackEvent} {place : Nat} {r : Reaction} {rest : List Reaction}
      {d d' : Deck} {deeds : Deeds} (hr : d.runs id e place r = false)
      (ht : Reacted id e (place + 1) rest d deeds d') :
      Reacted id e place (r :: rest) d deeds d'
  | quiet {id : Nat} {e : PlaybackEvent} {place : Nat} {r : Reaction} {rest : List Reaction}
      {d d₁ d' : Deck} {deeds : Deeds} (hr : d.runs id e place r = true)
      (hp : published? (some e) (d.use id place) r.step = none)
      (hs : (settled (some e) (d.use id place) r.step).1 = d₁)
      (ht : Reacted id e (place + 1) rest d₁ deeds d') :
      Reacted id e place (r :: rest) d (.quiet d₁.bus deeds) d'
  | round {id : Nat} {e : PlaybackEvent} {place : Nat} {r : Reaction} {rest : List Reaction}
      {d d₁ d' : Deck} {e' : PlaybackEvent} {slots : Slots} {deeds : Deeds}
      (hr : d.runs id e place r = true)
      (hp : published? (some e) (d.use id place) r.step = some e')
      (hd : Delivered e' d.bus.handlers (d.use id place) slots d₁)
      (ht : Reacted id e (place + 1) rest d₁ deeds d') :
      Reacted id e place (r :: rest) d (.round e' d.bus slots deeds) d'

end

/-! ## There is one course only -/

mutual

/-- **A delivery has one course**, and one end. -/
theorem delivered_unique {e : PlaybackEvent} {handlers : List (Nat × Handler)} {d : Deck}
    {s t : Slots} {d' d'' : Deck} :
    Delivered e handlers d s d' → Delivered e handlers d t d'' → s = t ∧ d' = d''
  | .done, h => by cases h; exact ⟨rfl, rfl⟩
  | .passed hr ht, h => by
    cases h with
    | passed _ ht' =>
      obtain ⟨h1, h2⟩ := delivered_unique ht ht'
      exact ⟨by rw [h1], h2⟩
    | reached hr' _ _ => rw [hr] at hr'; cases hr'
  | .reached hr hd ht, h => by
    cases h with
    | passed hr' _ => rw [hr] at hr'; cases hr'
    | reached _ hd' ht' =>
      obtain ⟨h1, h2⟩ := reacted_unique hd hd'
      rw [← h2] at ht'
      obtain ⟨h3, h4⟩ := delivered_unique ht ht'
      exact ⟨by rw [h1, h3], h4⟩

theorem reacted_unique {id : Nat} {e : PlaybackEvent} {place : Nat} {reactions : List Reaction}
    {d : Deck} {s t : Deeds} {d' d'' : Deck} :
    Reacted id e place reactions d s d' → Reacted id e place reactions d t d'' → s = t ∧ d' = d''
  | .nil, h => by cases h; exact ⟨rfl, rfl⟩
  | .idle hr ht, h => by
    cases h with
    | idle _ ht' => exact reacted_unique ht ht'
    | quiet hr' => rw [hr] at hr'; cases hr'
    | round hr' => rw [hr] at hr'; cases hr'
  | .quiet hr hp hs ht, h => by
    cases h with
    | idle hr' => rw [hr] at hr'; cases hr'
    | quiet _ _ hs' ht' =>
      rw [← hs', hs] at ht' ⊢
      obtain ⟨h1, h2⟩ := reacted_unique ht ht'
      exact ⟨by rw [h1], h2⟩
    | round _ hp' => rw [hp] at hp'; cases hp'
  | .round hr hp hd ht, h => by
    cases h with
    | idle hr' => rw [hr] at hr'; cases hr'
    | quiet _ hp' => rw [hp] at hp'; cases hp'
    | round _ hp' hd' ht' =>
      rw [hp, Option.some.injEq] at hp'
      rw [← hp'] at hd' ⊢
      obtain ⟨h1, h2⟩ := delivered_unique hd hd'
      rw [← h2] at ht'
      obtain ⟨h3, h4⟩ := reacted_unique ht ht'
      exact ⟨by rw [h1, h3], h4⟩

end

/-! ## Every delivery that returns has a course -/

section Adequacy
variable {deliver : Delivery}

theorem react_cons (id : Nat) (e : PlaybackEvent) (place : Nat) (r : Reaction)
    (rest : List Reaction) (d : Deck) :
    react deliver id e place (r :: rest) d =
      if d.runs id e place r then
        (perform deliver (some e) (d.use id place) r.step).bind fun p =>
          react deliver id e (place + 1) rest p.1
      else react deliver id e (place + 1) rest d := by
  by_cases hr : d.runs id e place r = true
  · rw [if_pos hr]
    rw [runs] at hr
    rw [react, if_pos hr]
    cases perform deliver (some e) (d.use id place) r.step <;> rfl
  · rw [if_neg hr]
    rw [runs] at hr
    rw [react, if_neg hr]

theorem deliverTo_cons (e : PlaybackEvent) (id : Nat) (h : Handler) (rest : List (Nat × Handler))
    (d : Deck) :
    deliverTo deliver e ((id, h) :: rest) d =
      if d.bus.isRegistered id then
        (react deliver id e 0 (d.opening id e h).2 (d.opening id e h).1).bind
          (deliverTo deliver e rest)
      else deliverTo deliver e rest d := by
  simp only [deliverTo, handle_eq]
  split_ifs
  · cases react deliver id e 0 (d.opening id e h).2 (d.opening id e h).1 <;> rfl
  · rfl

theorem reacted_of_react
    (hd : ∀ d e d', deliver d e = some d' → ∃ slots, Delivered e d.bus.handlers d slots d')
    {id : Nat} {e : PlaybackEvent} {place : Nat} {reactions : List Reaction} {d d' : Deck}
    (h : react deliver id e place reactions d = some d') :
    ∃ deeds, Reacted id e place reactions d deeds d' := by
  induction reactions generalizing place d with
  | nil =>
    rw [react, Option.some.injEq] at h
    subst h
    exact ⟨.nil, .nil⟩
  | cons r rest ih =>
    rw [react_cons] at h
    split_ifs at h with hr
    · obtain ⟨⟨d₁, a⟩, hp, hrest⟩ := Option.bind_eq_some_iff.mp h
      obtain ⟨deeds, ht⟩ := ih hrest
      cases he : published? (some e) (d.use id place) r.step with
      | none =>
        rw [perform_of_quiet he, Option.some.injEq] at hp
        exact ⟨_, .quiet hr he (by rw [hp]) ht⟩
      | some e' =>
        rw [perform_of_published he, Option.map_eq_some_iff] at hp
        obtain ⟨d₂, hd₂, heq⟩ := hp
        cases heq
        obtain ⟨slots, hs⟩ := hd _ _ _ hd₂
        exact ⟨_, .round hr he hs ht⟩
    · obtain ⟨deeds, ht⟩ := ih h
      exact ⟨deeds, .idle (by simpa using hr) ht⟩

theorem delivered_of_deliverTo
    (hd : ∀ d e d', deliver d e = some d' → ∃ slots, Delivered e d.bus.handlers d slots d')
    {e : PlaybackEvent} {handlers : List (Nat × Handler)} {d d' : Deck}
    (h : deliverTo deliver e handlers d = some d') : ∃ slots, Delivered e handlers d slots d' := by
  induction handlers generalizing d with
  | nil =>
    rw [deliverTo, Option.some.injEq] at h
    subst h
    exact ⟨.nil, .done⟩
  | cons p rest ih =>
    obtain ⟨id, handler⟩ := p
    rw [deliverTo_cons] at h
    split_ifs at h with hr
    · obtain ⟨d₁, hreact, hrest⟩ := Option.bind_eq_some_iff.mp h
      obtain ⟨deeds, hdeeds⟩ := reacted_of_react hd hreact
      obtain ⟨slots, ht⟩ := ih hrest
      exact ⟨_, .reached hr hdeeds ht⟩
    · obtain ⟨slots, ht⟩ := ih h
      exact ⟨_, .passed (by simpa using hr) ht⟩

theorem delivered_of_publish {depth : Nat} {d : Deck} {e : PlaybackEvent} {d' : Deck}
    (h : publish depth d e = some d') : ∃ slots, Delivered e d.bus.handlers d slots d' := by
  induction depth generalizing d e d' with
  | zero => simp [publish] at h
  | succ depth ih => exact delivered_of_deliverTo (fun _ _ _ => ih) h

/-! ## Every course belongs to a delivery that returns -/

theorem react_mono {deliver' : Delivery}
    (hd : ∀ d e d', deliver d e = some d' → deliver' d e = some d') {id : Nat} {e : PlaybackEvent}
    {place : Nat} {reactions : List Reaction} {d d' : Deck}
    (h : react deliver id e place reactions d = some d') :
    react deliver' id e place reactions d = some d' := by
  induction reactions generalizing place d with
  | nil => exact h
  | cons r rest ih =>
    rw [react_cons] at h ⊢
    split_ifs at h ⊢ with hr
    · obtain ⟨⟨d₁, a⟩, hp, hrest⟩ := Option.bind_eq_some_iff.mp h
      refine Option.bind_eq_some_iff.mpr ⟨(d₁, a), ?_, ih hrest⟩
      cases he : published? (some e) (d.use id place) r.step with
      | none => rw [perform_of_quiet he] at hp ⊢; exact hp
      | some e' =>
        rw [perform_of_published he, Option.map_eq_some_iff] at hp ⊢
        obtain ⟨d₂, hd₂, heq⟩ := hp
        exact ⟨d₂, hd _ _ _ hd₂, heq⟩
    · exact ih h

theorem deliverTo_mono {deliver' : Delivery}
    (hd : ∀ d e d', deliver d e = some d' → deliver' d e = some d') {e : PlaybackEvent}
    {handlers : List (Nat × Handler)} {d d' : Deck}
    (h : deliverTo deliver e handlers d = some d') :
    deliverTo deliver' e handlers d = some d' := by
  induction handlers generalizing d with
  | nil => exact h
  | cons p rest ih =>
    obtain ⟨id, handler⟩ := p
    rw [deliverTo_cons] at h ⊢
    split_ifs at h ⊢ with hr
    · obtain ⟨d₁, hreact, hrest⟩ := Option.bind_eq_some_iff.mp h
      exact Option.bind_eq_some_iff.mpr ⟨d₁, react_mono hd hreact, ih hrest⟩
    · exact ih h

/-- **A greater depth changes nothing** about a delivery that returns. -/
theorem publish_mono {m n : Nat} (hmn : m ≤ n) {d : Deck} {e : PlaybackEvent} {d' : Deck}
    (h : publish m d e = some d') : publish n d e = some d' := by
  induction n generalizing m d e d' with
  | zero =>
    obtain rfl : m = 0 := by omega
    exact h
  | succ n ih =>
    cases m with
    | zero => simp [publish] at h
    | succ m => exact deliverTo_mono (fun _ _ _ hd => ih (by omega) hd) h

mutual

theorem deliverTo_of_delivered {e : PlaybackEvent} {handlers : List (Nat × Handler)} {d : Deck}
    {slots : Slots} {d' : Deck} :
    Delivered e handlers d slots d' → ∃ depth, deliverTo (publish depth) e handlers d = some d'
  | .done => ⟨0, rfl⟩
  | .passed hr ht => by
    obtain ⟨n, ih⟩ := deliverTo_of_delivered ht
    exact ⟨n, by rw [deliverTo_cons, if_neg (by simp [hr]), ih]⟩
  | .reached hr hd ht => by
    obtain ⟨m, ihd⟩ := react_of_reacted hd
    obtain ⟨n, ih⟩ := deliverTo_of_delivered ht
    refine ⟨max m n, ?_⟩
    rw [deliverTo_cons, if_pos hr,
      react_mono (fun _ _ _ => publish_mono (Nat.le_max_left m n)) ihd]
    exact deliverTo_mono (fun _ _ _ => publish_mono (Nat.le_max_right m n)) ih

theorem react_of_reacted {id : Nat} {e : PlaybackEvent} {place : Nat} {reactions : List Reaction}
    {d : Deck} {deeds : Deeds} {d' : Deck} :
    Reacted id e place reactions d deeds d' →
      ∃ depth, react (publish depth) id e place reactions d = some d'
  | .nil => ⟨0, rfl⟩
  | .idle hr ht => by
    obtain ⟨n, ih⟩ := react_of_reacted ht
    exact ⟨n, by rw [react_cons, if_neg (by simp [hr]), ih]⟩
  | .quiet hr hp hs ht => by
    obtain ⟨n, ih⟩ := react_of_reacted ht
    refine ⟨n, ?_⟩
    rw [react_cons, if_pos hr, perform_of_quiet hp, Option.bind_some, hs, ih]
  | .round hr hp hd ht => by
    obtain ⟨m, ihd⟩ := deliverTo_of_delivered hd
    obtain ⟨n, ih⟩ := react_of_reacted ht
    have hunfold : ∀ e' d, publish (m + 1) d e' = deliverTo (publish m) e' d.bus.handlers d :=
      fun _ _ => rfl
    refine ⟨max (m + 1) n, ?_⟩
    rw [react_cons, if_pos hr, perform_of_published hp,
      publish_mono (Nat.le_max_left (m + 1) n) ((hunfold _ _).trans ihd)]
    exact react_mono (fun _ _ _ => publish_mono (Nat.le_max_right (m + 1) n)) ih

end

/-- **A delivery returns exactly if there is a course for it.** -/
theorem publish_iff {d : Deck} {e : PlaybackEvent} {d' : Deck} :
    (∃ depth, publish depth d e = some d') ↔ ∃ slots, Delivered e d.bus.handlers d slots d' := by
  constructor
  · rintro ⟨depth, h⟩
    exact delivered_of_publish h
  · rintro ⟨slots, h⟩
    obtain ⟨depth, h⟩ := deliverTo_of_delivered h
    exact ⟨depth + 1, h⟩

end Adequacy

/-! ## Steps by hand -/

/-- **Steps by hand**, each with a log of its own, and all that happened. -/
inductive Played : List Step → Deck → Deeds → Deck → Prop where
  | nil {d : Deck} : Played [] d .nil d
  | quiet {s : Step} {rest : List Step} {d d₁ d' : Deck} {deeds : Deeds}
      (hp : published? none { d with log := [] } s = none)
      (hs : (settled none { d with log := [] } s).1 = d₁) (ht : Played rest d₁ deeds d') :
      Played (s :: rest) d (.quiet d₁.bus deeds) d'
  | round {s : Step} {rest : List Step} {d d₁ d' : Deck} {e : PlaybackEvent} {slots : Slots}
      {deeds : Deeds} (hp : published? none { d with log := [] } s = some e)
      (hd : Delivered e d.bus.handlers { d with log := [] } slots d₁)
      (ht : Played rest d₁ deeds d') : Played (s :: rest) d (.round e d.bus slots deeds) d'

theorem played_append {before after : List Step} {d d' : Deck} {deeds : Deeds}
    (h : Played (before ++ after) d deeds d') :
    ∃ d₁ past since, Played before d past d₁ ∧ Played after d₁ since d' := by
  induction before generalizing d deeds with
  | nil => exact ⟨d, .nil, deeds, .nil, h⟩
  | cons s rest ih =>
    cases h with
    | quiet hp hs ht =>
      obtain ⟨d₁, past, since, hpast, hsince⟩ := ih ht
      exact ⟨d₁, _, since, .quiet hp hs hpast, hsince⟩
    | round hp hd ht =>
      obtain ⟨d₁, past, since, hpast, hsince⟩ := ih ht
      exact ⟨d₁, _, since, .round hp hd hpast, hsince⟩

theorem played_of_step {s : Step} {d d₁ : Deck} {answer : Answer}
    (h : d.step s = some (d₁, answer)) {rest : List Step} {deeds : Deeds} {d' : Deck}
    (ht : Played rest d₁ deeds d') : ∃ deeds, Played (s :: rest) d deeds d' := by
  rw [step] at h
  cases he : published? none { d with log := [] } s with
  | none =>
    rw [perform_of_quiet he, Option.some.injEq] at h
    exact ⟨_, .quiet he (by rw [h]) ht⟩
  | some e =>
    rw [perform_of_published he, Option.map_eq_some_iff] at h
    obtain ⟨d₂, hd, heq⟩ := h
    cases heq
    obtain ⟨slots, hs⟩ := delivered_of_publish hd
    exact ⟨_, .round he hs ht⟩

theorem run_cons {s : Step} {rest : List Step} {d d₁ d' : Deck} {answer : Answer}
    {answers : List Answer} (h : d.step s = some (d₁, answer))
    (hr : d₁.run rest = some (d', answers)) : d.run (s :: rest) = some (d', answer :: answers) := by
  rw [run, h]
  simp only [hr, Option.map_some]

theorem played_of_run {steps : List Step} {d d' : Deck} {answers : List Answer}
    (h : d.run steps = some (d', answers)) : ∃ deeds, Played steps d deeds d' := by
  induction steps generalizing d answers with
  | nil =>
    simp only [run, Option.some.injEq, Prod.mk.injEq] at h
    obtain ⟨rfl, -⟩ := h
    exact ⟨.nil, .nil⟩
  | cons s rest ih =>
    simp only [run] at h
    cases hs : d.step s with
    | none => simp [hs] at h
    | some r =>
      obtain ⟨d₁, answer⟩ := r
      simp only [hs, Option.map_eq_some_iff] at h
      obtain ⟨⟨d₂, answers'⟩, hrun, heq⟩ := h
      cases heq
      obtain ⟨deeds, ht⟩ := ih hrun
      exact played_of_step hs ht

end ListenDeck.Deck
