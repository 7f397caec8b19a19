import ListenDeck.Proofs.Playback.Scenes

/-!
# The flips of a card

A card's callback is invoked when its mark changes, with the mark. What it was given, in order, is
what the flips in the history are to.

* `Deck.flipsOf`, `Deck.alternation`: the flips of a card, and a list that begins with `true` and
  alternates.
* `Deck.Turns`: the beginning of a handler's turn is the flip of a card, or leaves marks and flips
  as they are (`Deck.opening_turns`).
* `Deck.Tallies`: every card's mark is what its last flip was to, and its flips alternate.
* `Deck.Scene.Sound`: what holds of every scene of a run (`Deck.sound_scene`).
* `Deck.Gone`: a card that was unmounted or taken away, for good (`Deck.Scene.Sound.gone`).
-/

namespace ListenDeck

/-- What the callback of the card of a number is given, if this is its flip. -/
def Happening.flip? (id : Nat) : Happening → Option Bool
  | .handled .. => none
  | .flipped n _ playing => if n = id then some playing else none

namespace Deck

open Named

/-! ## Flips -/

/-- What the flips of the card of a number are to, in order. -/
def flipsOf (id : Nat) (log : List Happening) : List Bool := log.filterMap (·.flip? id)

theorem flipsOf_append (id : Nat) (log log' : List Happening) :
    flipsOf id (log ++ log') = flipsOf id log ++ flipsOf id log' := List.filterMap_append

theorem flipsOf_flipped (n id : Nat) (name : String) (value : Bool) :
    flipsOf n [.flipped id name value] = if id = n then [value] else [] := by
  simp only [flipsOf, List.filterMap_cons, Happening.flip?, List.filterMap_nil]
  split_ifs <;> rfl

theorem flipsOf_snoc (n : Nat) (past log : List Happening) (id : Nat) (name : String)
    (value : Bool) :
    flipsOf n (past ++ (log ++ [.flipped id name value])) =
      flipsOf n (past ++ log) ++ if id = n then [value] else [] := by
  rw [← List.append_assoc, flipsOf_append, flipsOf_flipped]

/-- The list `true`, `false`, `true` and so on, of a length. -/
def alternation (n : Nat) : List Bool := (List.range n).map fun k => decide (k % 2 = 0)

theorem alternation_succ (n : Nat) :
    alternation (n + 1) = alternation n ++ [decide (n % 2 = 0)] := by
  simp [alternation, List.range_succ]

theorem getLastD_alternation (n : Nat) :
    (alternation n).getLastD false = decide (n % 2 = 1) := by
  cases n with
  | zero => rfl
  | succ n =>
    rw [alternation_succ, List.getLastD_concat]
    refine decide_eq_decide.mpr ?_
    omega

/-- A value that is not the last one goes on with the alternation. -/
theorem alternation_append {flips : List Bool} (h : flips = alternation flips.length) {value : Bool}
    (hv : flips.getLastD false ≠ value) :
    flips ++ [value] = alternation (flips ++ [value]).length := by
  have hvalue : value = decide (flips.length % 2 = 0) := by
    rw [h, getLastD_alternation] at hv
    rcases Nat.mod_two_eq_zero_or_one flips.length with hm | hm
    · rw [hm] at hv ⊢
      cases value with
      | false => exact absurd rfl hv
      | true => rfl
    · rw [hm] at hv ⊢
      cases value with
      | false => rfl
      | true => exact absurd rfl hv
  rw [List.length_append, List.length_singleton, alternation_succ, ← h, ← hvalue]

/-! ## The beginning of a turn -/

/-- **The beginning of a handler's turn**, and what comes of it. -/
inductive Turns (d : Deck) (id : Nat) :
    PlaybackEvent → Handler → Deck × List Reaction → Prop where
  /-- Marks and flips are as they were. -/
  | still {e : PlaybackEvent} {handler : Handler} {r : Deck × List Reaction}
      (hb : r.1.bus = d.bus) (hc : r.1.cards = d.cards)
      (hf : ∀ n, flipsOf n r.1.log = flipsOf n d.log) :
      Turns d id e handler r
  /-- A mounted card flips, since something is played; its callback is next. -/
  | flips {x : Item} {name : String} {c : Card} {onFlip : List Reaction}
      (hc : (name, c) ∈ d.cards) (hid : c.subscription = { id })
      (hp : c.playing ≠ decide (x = c.item)) :
      Turns d id (.nowPlaying x) (.card name c.item onFlip)
        ({ d.setPlaying id (decide (x = c.item)) with
            log := d.log ++ [.flipped id name (decide (x = c.item))] }, onFlip)

theorem opening_turns {d : Deck} (hs : d.Sound) {id : Nat} {handler : Handler}
    (hm : (id, handler) ∈ d.bus.handlers) (e : PlaybackEvent) :
    d.Turns id e handler (d.opening id e handler) := by
  cases handler with
  | program name reactions =>
    refine .still rfl rfl fun n => ?_
    rw [opening, flipsOf_append]
    exact List.append_nil _
  | card name item onFlip =>
    cases e with
    | playRequested x => exact .still rfl rfl fun _ => rfl
    | nowPlaying x =>
      simp only [opening]
      split_ifs with hflip
      · obtain ⟨p, hp, hne⟩ :
            ∃ p, d.cardOf? id = some p ∧ p.2.playing ≠ decide (x = item) := by
          simpa [Option.any_eq_true] using hflip
        have hmem := List.mem_of_find?_eq_some hp
        have hid := List.find?_some hp
        rw [decide_eq_true_eq] at hid
        subst hid
        obtain ⟨onFlip', hcard⟩ := hs.handler_eq hmem hm
        cases hcard
        -- the handler is registered, hence its card is mounted
        have ha : p.2.subscription.active = true := by
          by_contra hn
          rw [Bool.not_eq_true] at hn
          exact hs.unmounted p hmem hn (Bus.mem_ids_of_mem hm)
        have hsub : p.2.subscription = { id := p.2.subscription.id } := by
          rw [← ha]
        exact .flips hmem hsub hne
      · exact .still rfl rfl fun _ => rfl

/-! ## Marks and flips -/

/-- **The flips tally with the marks.** -/
structure Tallies (d : Deck) (flips : Nat → List Bool) : Prop where
  marked : ∀ p ∈ d.cards, p.2.playing = (flips p.2.subscription.id).getLastD false
  unborn : ∀ id, d.bus.nextId ≤ id → flips id = []
  alternate : ∀ id, flips id = alternation (flips id).length

section Tallies
variable {d : Deck} {flips : Nat → List Bool}

theorem alters_tallies (h : d.Tallies flips) {d' : Deck} (hd : d.Alters d') : d'.Tallies flips := by
  refine ⟨fun p hp => ?_, fun id hid => ?_, h.alternate⟩
  · rcases alters_card hd hp with hp | ⟨c, hc, hpc⟩ | ⟨hplaying, hid⟩
    · exact h.marked p hp
    · rw [hpc]
      exact h.marked _ hc
    · rw [hid, h.unborn _ (Nat.le_refl _), hplaying]
      rfl
  · exact h.unborn id (Nat.le_trans (alters_later hd).nextId hid)

theorem setPlaying_tallies (hs : d.Sound) (h : d.Tallies flips) {name : String} {c : Card}
    (hc : (name, c) ∈ d.cards) {value : Bool} (hv : c.playing ≠ value) :
    (d.setPlaying c.subscription.id value).Tallies
      fun n => flips n ++ if c.subscription.id = n then [value] else [] := by
  refine ⟨fun p hp => ?_, fun n hn => ?_, fun n => ?_⟩
  · obtain ⟨q, hq, rfl⟩ := List.mem_map.mp hp
    by_cases hid : q.2.subscription.id = c.subscription.id
    · simp only [if_pos hid, if_pos hid.symm, List.getLastD_concat]
    · have hid' : ¬ c.subscription.id = q.2.subscription.id := fun he => hid he.symm
      simp only [if_neg hid, if_neg hid', List.append_nil]
      exact h.marked q hq
  · have hlt := hs.cardsBelow _ hc
    have hn : d.bus.nextId ≤ n := hn
    have hne : ¬ c.subscription.id = n := by
      simp only at hlt
      omega
    rw [if_neg hne, h.unborn n hn, List.append_nil]
  · split_ifs with hid
    · subst hid
      rw [h.marked _ hc] at hv
      exact alternation_append (h.alternate _) hv
    · rw [List.append_nil]
      exact h.alternate n

theorem Tallies.log (h : d.Tallies flips) (log : List Happening) : { d with log }.Tallies flips :=
  ⟨h.marked, h.unborn, h.alternate⟩

theorem Tallies.use (h : d.Tallies flips) (id place : Nat) : (d.use id place).Tallies flips :=
  ⟨h.marked, h.unborn, h.alternate⟩

end Tallies

theorem Turns.tallies {d : Deck} (hs : d.Sound) {past : List Happening}
    (h : d.Tallies fun n => flipsOf n (past ++ d.log)) {id : Nat} {e : PlaybackEvent}
    {handler : Handler} {r : Deck × List Reaction} (hr : d.Turns id e handler r) :
    r.1.Tallies fun n => flipsOf n (past ++ r.1.log) := by
  cases hr with
  | still hb hc hf =>
    have hsame : ∀ n, flipsOf n (past ++ r.1.log) = flipsOf n (past ++ d.log) := by
      intro n
      rw [flipsOf_append, flipsOf_append, hf]
    simp only [hsame]
    refine ⟨?_, ?_, h.alternate⟩
    · rw [hc]
      exact h.marked
    · rw [hb]
      exact h.unborn
  | @flips x name c onFlip hc hid hp =>
    have hflip := (setPlaying_tallies hs h hc hp).log
      (d.log ++ [.flipped id name (decide (x = c.item))])
    simp only [hid] at hflip
    simp only [flipsOf_snoc]
    exact hflip

/-! ## A card that is gone -/

/-- **The card of a number is gone**: it was on the deck once, and is mounted no more. -/
structure Gone (d : Deck) (id : Nat) : Prop where
  born : id < d.bus.nextId
  unmounted : ∀ p ∈ d.cards, p.2.subscription.id = id → p.2.subscription.active = false

section Gone
variable {d : Deck} {id : Nat}

theorem alters_gone (h : d.Gone id) {d' : Deck} (hd : d.Alters d') : d'.Gone id := by
  refine ⟨Nat.lt_of_lt_of_le h.born (alters_later hd).nextId, fun p hp hid => ?_⟩
  rcases alters_card hd hp with hp | ⟨c, -, hpc⟩ | ⟨-, hnew⟩
  · exact h.unmounted p hp hid
  · rw [hpc]
  · have hlt := h.born
    omega

theorem Gone.log (h : d.Gone id) (log : List Happening) : { d with log }.Gone id :=
  ⟨h.born, h.unmounted⟩

theorem Gone.use (h : d.Gone id) (n place : Nat) : (d.use n place).Gone id :=
  ⟨h.born, h.unmounted⟩

theorem setPlaying_gone (h : d.Gone id) (n : Nat) (value : Bool) :
    (d.setPlaying n value).Gone id := by
  refine ⟨h.born, fun p hp hid => ?_⟩
  obtain ⟨q, hq, rfl⟩ := List.mem_map.mp hp
  have hsame := h.unmounted q hq
  split_ifs at hid ⊢ <;> exact hsame hid

theorem Turns.gone (h : d.Gone id) {n : Nat} {e : PlaybackEvent} {handler : Handler}
    {r : Deck × List Reaction} (hr : d.Turns n e handler r) : r.1.Gone id := by
  cases hr with
  | still hb hc _ =>
    refine ⟨?_, ?_⟩
    · rw [hb]
      exact h.born
    · rw [hc]
      exact h.unmounted
  | flips _ _ _ => exact (setPlaying_gone h n _).log _

theorem Sound.name_eq (hs : d.Sound) {name : String} {c : Card}
    (hc : find? name d.cards = some c) {p : String × Card} (hp : p ∈ d.cards)
    (hid : p.2.subscription.id = c.subscription.id) : p.1 = name :=
  congrArg Prod.fst (hs.unique p hp _ (mem_of_find? hc) hid)

theorem unmount_gone (hs : d.Sound) {name : String} {c : Card}
    (hc : find? name d.cards = some c) : (d.unmount name).Gone c.subscription.id := by
  have hlt := hs.cardsBelow _ (mem_of_find? hc)
  refine ⟨Nat.lt_of_lt_of_le hlt (alters_later (.unmount name)).nextId, fun p hp hid => ?_⟩
  rw [unmount_cards_of_some d name hc] at hp
  rcases mem_put hs.names hp with rfl | ⟨hp, hn⟩
  · rfl
  · exact absurd (hs.name_eq hc hp hid) hn

theorem dropCard_gone (hs : d.Sound) {name : String} {c : Card}
    (hc : find? name d.cards = some c) : (d.dropCard name).1.Gone c.subscription.id := by
  have hlt := hs.cardsBelow _ (mem_of_find? hc)
  refine ⟨Nat.lt_of_lt_of_le hlt (alters_later (.dropCard name)).nextId, fun p hp hid => ?_⟩
  rw [dropCard_cards] at hp
  obtain ⟨hp, hn⟩ := mem_erase.mp hp
  exact absurd (hs.name_eq hc hp hid) hn

end Gone

/-! ## What holds of every scene -/

namespace Scene

/-- What the callback of the card of a number was given so far, in order. -/
def flips (s : Scene) (id : Nat) : List Bool := flipsOf id s.history

/-- **The callback of a card is invoked** with a value from one scene to the next one: in the turn
that its handler has since something is played, while the card is mounted and shows the value. -/
def Invokes (s s' : Scene) (id : Nat) (value : Bool) : Prop :=
  ∃ x name c onFlip,
    s.turn? = some (id, .nowPlaying x, .card name c.item onFlip) ∧ value = decide (x = c.item) ∧
    (name, c) ∈ s'.deck.cards ∧ c.subscription = { id } ∧ c.playing = value ∧
    s'.tasks.head? = some (.reactions id (.nowPlaying x) 0 onFlip)

/-- What holds of every scene. -/
structure Sound (s : Scene) : Prop where
  deck : s.deck.Sound
  knew : s.deck.bus.Knew s.waiting
  tallies : s.deck.Tallies s.flips

section Sound
variable {s s' : Scene}

theorem Sound.knew_onward (h : s.Sound) {tasks : List Task} (hw : s.Onward tasks) :
    s.deck.bus.Knew (tasks.flatMap Task.waiting) := by
  intro p hp
  rcases hw p hp with hp | hp
  · exact h.knew p hp
  · exact h.deck.numbered.knew p hp

theorem Sound.turns (h : s.Sound) {id : Nat} {e : PlaybackEvent} {handler : Handler}
    (ht : s.turn? = some (id, e, handler)) :
    s.deck.Turns id e handler (s.deck.opening id e handler) := by
  obtain ⟨hm, hr⟩ := turn?_eq_some ht
  exact opening_turns h.deck ((h.knew _ hm).2 (Bus.isRegistered_iff.mp hr)) e

theorem flips_altered {d d' : Deck} (hd : d.Alters d') {past : List Happening}
    (hpast : past ++ d.log = s.history) (tasks : List Task) :
    Scene.flips ⟨d', tasks, past⟩ = s.flips := by
  have hlog := (alters_bus hd).1
  funext n
  show flipsOf n (past ++ d'.log) = flipsOf n s.history
  rw [hlog, hpast]

theorem Sound.altered (h : s.Sound) {d d' : Deck} (hs : d.Sound) (ht : d.Tallies s.flips)
    (hd : d.Alters d') (hbus : d.bus = s.deck.bus) {tasks : List Task} (hw : s.Onward tasks)
    {past : List Happening} (hpast : past ++ d.log = s.history) :
    Scene.Sound ⟨d', tasks, past⟩ := by
  have hknew := h.knew_onward hw
  rw [← hbus] at hknew
  refine ⟨alters_sound hs hd, hknew.later hs.numbered (alters_later hd), ?_⟩
  rw [flips_altered hd hpast]
  exact alters_tallies ht hd

/-- **Every scene leads to one of which the same holds.** -/
theorem Sound.goes (h : s.Sound) (hg : s.Goes s') : s'.Sound := by
  cases hg with
  | waits hw => exact ⟨h.deck, h.knew_onward hw, h.tallies⟩
  | byHand hw hd =>
    exact h.altered (log_sound h.deck []) (h.tallies.log []) hd rfl hw (List.append_nil _)
  | reacts hw hd =>
    exact h.altered (use_sound h.deck _ _) (h.tallies.use _ _) hd rfl hw rfl
  | @turn tasks id e handler hw ht hn =>
    have hknew := h.knew_onward hw
    rw [← opening_bus s.deck id e handler] at hknew
    exact ⟨opening_sound h.deck id e handler, hknew, (h.turns ht).tallies h.deck h.tallies⟩

/-- **A card flips if its callback is invoked**, and only then. -/
theorem Sound.flips (h : s.Sound) (hg : s.Goes s') (id : Nat) :
    s'.flips id = s.flips id ∨
      ∃ value, s.Invokes s' id value ∧ s'.flips id = s.flips id ++ [value] := by
  cases hg with
  | waits hw => exact Or.inl rfl
  | byHand hw hd => exact Or.inl (congrFun (flips_altered hd (List.append_nil _) _) id)
  | reacts hw hd => exact Or.inl (congrFun (flips_altered hd rfl _) id)
  | @turn tasks n e handler hw ht hn =>
    have hturns := h.turns ht
    generalize s.deck.opening n e handler = r at hturns hn ⊢
    cases hturns with
    | still hb hc hf =>
      left
      show flipsOf id (s.past ++ r.1.log) = flipsOf id (s.past ++ s.deck.log)
      rw [flipsOf_append, flipsOf_append, hf]
    | @flips x name c onFlip hc hid hp =>
      have hflips : Scene.flips { s with
          deck := { s.deck.setPlaying n (decide (x = c.item)) with
            log := s.deck.log ++ [.flipped n name (decide (x = c.item))] }, tasks } id =
          s.flips id ++ if n = id then [decide (x = c.item)] else [] :=
        flipsOf_snoc id s.past s.deck.log n name _
      by_cases hn' : n = id
      · subst hn'
        rw [if_pos rfl] at hflips
        refine Or.inr ⟨_, ⟨x, name, { c with playing := decide (x = c.item) }, onFlip, ht, rfl, ?_,
          hid, rfl, hn⟩, hflips⟩
        refine List.mem_map.mpr ⟨_, hc, if_pos ?_⟩
        simp only [hid]
      · rw [if_neg hn', List.append_nil] at hflips
        exact Or.inl hflips

/-- **A card that is gone stays so**, and flips no more. -/
theorem Sound.gone (h : s.Sound) {id : Nat} (hg : s.deck.Gone id) (hs : s.Goes s') :
    s'.deck.Gone id ∧ s'.flips id = s.flips id := by
  have hgone : s'.deck.Gone id := by
    cases hs with
    | waits hw => exact hg
    | byHand hw hd => exact alters_gone (hg.log []) hd
    | reacts hw hd => exact alters_gone (hg.use _ _) hd
    | turn hw ht hn => exact (h.turns ht).gone hg
  refine ⟨hgone, (h.flips hs id).resolve_right ?_⟩
  rintro ⟨value, ⟨x, name, c, onFlip, -, -, hc, hid, -⟩, -⟩
  -- the callback of a mounted card only is invoked
  have ha := hgone.unmounted _ hc (by rw [hid])
  rw [hid] at ha
  cases ha

end Sound

end Scene

open Scene

theorem sound_scene (origin : String) (steps : List Step) (n : Nat) :
    (scene origin steps n).Sound := by
  induction n with
  | zero =>
    have hknew : (start origin).bus.Knew [] := fun p hp => by cases hp
    exact ⟨sound_start origin, hknew, ⟨by simp [scene, start], fun _ _ => rfl, fun _ => rfl⟩⟩
  | succ n ih =>
    rw [scene_succ]
    exact ih.goes (next_goes _)

theorem gone_scene {origin : String} {steps : List Step} {n id : Nat}
    (h : (scene origin steps n).deck.Gone id) (k : Nat) :
    (scene origin steps (n + k)).deck.Gone id ∧
      (scene origin steps (n + k)).flips id = (scene origin steps n).flips id := by
  induction k with
  | zero => exact ⟨h, rfl⟩
  | succ k ih =>
    rw [← Nat.add_assoc, scene_succ]
    obtain ⟨hgone, hflips⟩ := (sound_scene origin steps (n + k)).gone ih.1 (next_goes _)
    exact ⟨hgone, hflips.trans ih.2⟩

/-- **A card's callback is told its flips.** Whatever is done by hand and by whatever handlers, and
at every moment, also in the middle of deliveries at any depth: what the callback of a card was
given so far alternates, beginning with `true`. Every card shows what its callback was given last,
and no mark if it was given nothing. The callback is invoked in a turn of the card's handler only,
since something is played, and then the card is mounted and shows the value that is given. Once a
card is unmounted or taken away, its callback is invoked no more. And if a run comes to its end,
these moments lead there. -/
theorem flips_alternate (origin : String) (steps : List Step) (n id : Nat) :
    let s := scene origin steps n
    let s' := scene origin steps (n + 1)
    s.flips id = alternation (s.flips id).length ∧
    (∀ p ∈ s.deck.cards, p.2.subscription.id = id →
      p.2.playing = (s.flips id).getLastD false) ∧
    (s'.flips id = s.flips id ∨
      ∃ value, s.Invokes s' id value ∧ s'.flips id = s.flips id ++ [value]) ∧
    (∀ name c, find? name s.deck.cards = some c → c.subscription.id = id →
      (s.deck.unmount name).Gone id ∧ (s.deck.dropCard name).1.Gone id) ∧
    (s.deck.Gone id → ∀ k, (scene origin steps (n + k)).flips id = s.flips id) ∧
    ∀ d answers, (start origin).run steps = some (d, answers) →
      ∃ m past, scene origin steps m = ⟨d, [], past⟩ := by
  intro s s'
  have hs : s.Sound := sound_scene origin steps n
  have hs' : s.next = s' := (scene_succ origin steps n).symm
  refine ⟨hs.tallies.alternate id, fun p hp hid => ?_, ?_, fun name c hc hid => ?_,
    fun hg k => (gone_scene hg k).2, fun d answers hrun => scene_of_run hrun⟩
  · rw [← hid]
    exact hs.tallies.marked p hp
  · rw [← hs']
    exact hs.flips (next_goes s) id
  · rw [← hid]
    exact ⟨unmount_gone hs.deck hc, dropCard_gone hs.deck hc⟩

/-- A callback answers the first flip by saying that something else is played, and unmounts its card
after that: in the middle of the inner delivery the card is gone, after two flips. -/
theorem flips_alternate_until_unmounted :
    let x := Item.pin { rowId := 1 }
    let y := Item.pin { rowId := 2 }
    let steps : List Step :=
      [.mount "card" x [.on .any (some 1) (.publish (.nowPlaying y)),
        .on .any none (.unmount "card")], .publish (.nowPlaying x)]
    let c : Card := { item := x, subscription := { id := 0, active := false } }
    let s := scene localOrigin steps 7
    s.deck.cards = [("card", c)] ∧ s.flips 0 = [true, false] ∧
      c.playing = (s.flips 0).getLastD false ∧ (s.deck.unmount "card").Gone 0 ∧ s.deck.Gone 0 ∧
      (∀ k, (scene localOrigin steps (7 + k)).flips 0 = [true, false]) ∧
      ∃ d answers, (start localOrigin).run steps = some (d, answers) ∧
        ∃ m past, scene localOrigin steps m = ⟨d, [], past⟩ := by
  intro x y steps c s
  have hcards : s.deck.cards = [("card", c)] := by decide +kernel
  have hflips : s.flips 0 = [true, false] := by decide +kernel
  have hborn : 0 < s.deck.bus.nextId := by decide +kernel
  have hends : ((start localOrigin).run steps).isSome = true := by decide +kernel
  obtain ⟨⟨d, answers⟩, hran⟩ := Option.isSome_iff_exists.mp hends
  obtain ⟨-, hmarked, -, hunmount, hend, hrun⟩ := flips_alternate localOrigin steps 7 0
  have hs : scene localOrigin steps 7 = s := rfl
  rw [hs] at hmarked hunmount hend
  clear_value s
  have hmem : ("card", c) ∈ s.deck.cards := by
    rw [hcards]
    exact List.mem_singleton_self _
  have hfind : find? "card" s.deck.cards = some c := by
    rw [hcards]
    rfl
  have hgone : s.deck.Gone 0 := by
    refine ⟨hborn, ?_⟩
    rw [hcards]
    decide
  refine ⟨hcards, hflips, hmarked _ hmem rfl, (hunmount "card" c hfind rfl).1, hgone, fun k => ?_,
    d, answers, hran, hrun d answers hran⟩
  rw [hend hgone k]
  exact hflips

end Deck

end ListenDeck
