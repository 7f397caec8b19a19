import ListenDeck.Proofs.Playback.Bridge

/-!
# Playing from end to end

Work on cards, on a bus where the bridge confirms every request.

* `Step.isCardWork`, `Step.moves`: mounting, unmounting, dropping and playing of cards, and events
  from outside.
* `Deck.played_bridged`: whatever is done, a card that is not moved is told of every item that is
  said to be played.
* `Deck.playing_end_to_end`: a mounted card is marked if and only if the item that was said to be
  played last, since the card was mounted, is its own.
-/

namespace ListenDeck

/-- Work on cards, which do nothing on the bus when their mark changes, or an event from outside. -/
def Step.isCardWork : Step → Bool
  | .mount _ _ onFlip => onFlip.isEmpty
  | .unmount _ => true
  | .dropCard _ => true
  | .play _ => true
  | .receive .. => true
  | _ => false

/-- The card of a name is mounted, unmounted or dropped. -/
def Step.moves (name : String) : Step → Bool
  | .mount card _ _ => card = name
  | .unmount card => card = name
  | .dropCard card => card = name
  | _ => false

namespace Card

@[simp] theorem foldl_told_item (c : Card) (xs : List Item) : (xs.foldl told c).item = c.item := by
  induction xs generalizing c with
  | nil => rfl
  | cons x xs ih => rw [List.foldl_cons, ih, told_item]

@[simp] theorem foldl_told_subscription (c : Card) (xs : List Item) :
    (xs.foldl told c).subscription = c.subscription := by
  induction xs generalizing c with
  | nil => rfl
  | cons x xs ih => rw [List.foldl_cons, ih, told_subscription]

theorem told_playing {c : Card} (ha : c.subscription.active = true) (x : Item) :
    (c.told x).playing = true ↔ x = c.item := by
  simp [told, ha, heard]

/-- The last item that a mounted card was told of decides. -/
theorem foldl_told_playing {c : Card} (ha : c.subscription.active = true) (hn : c.playing = false)
    (xs : List Item) : (xs.foldl told c).playing = true ↔ xs.getLast? = some c.item := by
  rcases List.eq_nil_or_concat xs with rfl | ⟨ys, x, rfl⟩
  · simp [hn]
  · rw [List.concat_eq_append, List.foldl_concat,
      told_playing (by rw [foldl_told_subscription]; exact ha), foldl_told_item,
      List.getLast?_concat, Option.some.injEq]

end Card

namespace Deck

open Named

/-! ## Steps -/

section Steps
variable {d : Deck}

theorem subscribe_bridgeFirst (h : BridgeFirst d.bus.handlers) {handler : Handler}
    (hr : reactionsOf handler = []) : BridgeFirst (d.bus.subscribe handler).1.handlers := by
  obtain ⟨rest, hc, hrest⟩ := h
  refine ⟨rest ++ [(d.bus.nextId, handler)], by simp [Bus.subscribe, hc], ?_⟩
  intro p hp
  rcases List.mem_append.mp hp with hp | hp
  · exact hrest p hp
  · rw [List.mem_singleton.mp hp]
    exact hr

theorem release_bridgeFirst (h : BridgeFirst d.bus.handlers) {s : Subscription} (hs : s.id ≠ 0) :
    BridgeFirst (d.release s).bus.handlers := by
  unfold release
  split_ifs
  · obtain ⟨rest, hc, hrest⟩ := h
    refine ⟨rest.filter (·.1 ≠ s.id), ?_, fun p hp => hrest p (List.mem_of_mem_filter hp)⟩
    simp [Bus.remove, hc, hs.symm]
  · exact h

theorem mount_bridged (h : d.Bridged) (name : String) (item : Item) :
    (d.mount name item []).Bridged := by
  have hsound := alters_sound h.sound (.mount name item [])
  have hnew : BridgeFirst (d.bus.subscribe (.card name item [])).1.handlers :=
    subscribe_bridgeFirst h.handlers rfl
  unfold mount at hsound ⊢
  cases hc : find? name d.cards with
  | none =>
    rw [hc] at hsound
    exact ⟨hsound, h.held, hnew⟩
  | some c =>
    rw [hc] at hsound
    exact ⟨hsound, (release_held _ _).trans h.held,
      release_bridgeFirst hnew (h.card_id (mem_of_find? hc))⟩

theorem unmount_bridged (h : d.Bridged) (name : String) : (d.unmount name).Bridged := by
  have hsound := alters_sound h.sound (.unmount name)
  unfold unmount at hsound ⊢
  cases hc : find? name d.cards with
  | none => exact h
  | some c =>
    rw [hc] at hsound
    exact ⟨hsound, (release_held _ _).trans h.held,
      release_bridgeFirst h.handlers (h.card_id (mem_of_find? hc))⟩

theorem dropCard_bridged (h : d.Bridged) (name : String) : (d.dropCard name).1.Bridged := by
  have hsound := alters_sound h.sound (.dropCard name)
  unfold dropCard at hsound ⊢
  cases hc : find? name d.cards with
  | none => exact h
  | some c =>
    rw [hc] at hsound
    exact ⟨hsound, (release_held _ _).trans h.held,
      release_bridgeFirst h.handlers (h.card_id (mem_of_find? hc))⟩

/-- What became of the card of a name: nothing unless the step moves it, and a mounted card that was
moved was mounted just now. -/
def Moved (d : Deck) (s : Step) (d' : Deck) (name : String) : Prop :=
  (s.moves name = false → find? name d'.cards = find? name d.cards) ∧
    ∀ c, s.moves name = true → find? name d'.cards = some c → c.subscription.active = true →
      s = .mount name c.item [] ∧ c.playing = false

theorem moved_of_find? {s : Step} {d' : Deck} {card : String} {o : Option Card}
    (hs : ∀ name, s.moves name = decide (card = name))
    (hf : ∀ name, find? name d'.cards = if name = card then o else find? name d.cards)
    (ho : ∀ c, o = some c → c.subscription.active = true →
      s = .mount card c.item [] ∧ c.playing = false) (name : String) : d.Moved s d' name := by
  rw [Moved, hs, hf]
  by_cases hn : name = card
  · rw [if_pos hn]
    refine ⟨fun hm => absurd hn.symm (of_decide_eq_false hm), fun c _ hc ha => ?_⟩
    rw [hn]
    exact ho c hc ha
  · rw [if_neg hn]
    exact ⟨fun _ => rfl, fun c hm => absurd (of_decide_eq_true hm).symm hn⟩

theorem moved_same {s : Step} (hs : ∀ name, s.moves name = false) (name : String) :
    d.Moved s d name :=
  ⟨fun _ => rfl, fun c hm => by rw [hs] at hm; cases hm⟩

/-- **Work on cards that publishes nothing**, one case for each kind of it. -/
theorem settled_cases (h : d.Bridged) {s : Step} (hw : s.isCardWork = true) {d' : Deck}
    (hs : (settled none d s).1 = d') : d'.Bridged ∧ ∀ name, d.Moved s d' name := by
  subst hs
  cases s with
  | mount card item onFlip =>
    rw [Step.isCardWork, List.isEmpty_iff] at hw
    subst hw
    have hd : (settled none d (.mount card item [])).1 = d.mount card item [] := by
      simp only [settled, perform, h.held, if_true, Option.getD_some]
    rw [hd]
    refine ⟨mount_bridged h card item, moved_of_find? (fun _ => rfl)
      (fun name => find?_mount d card name item []) fun c hc _ => ?_⟩
    cases hc
    exact ⟨rfl, rfl⟩
  | unmount card =>
    refine ⟨unmount_bridged h card, moved_of_find? (fun _ => rfl)
      (fun name => find?_unmount d card name) fun c hc ha => ?_⟩
    obtain ⟨c', -, rfl⟩ := Option.map_eq_some_iff.mp hc
    cases ha
  | dropCard card =>
    refine ⟨dropCard_bridged h card, moved_of_find? (fun _ => rfl)
      (fun name => find?_dropCard d card name) fun c hc _ => ?_⟩
    cases hc
  | play card =>
    have hd : (settled none d (.play card)).1 = d := by
      simp only [settled, perform, unheard]
      split
      · rfl
      · split_ifs <;> rfl
    rw [hd]
    exact ⟨h, moved_same fun _ => rfl⟩
  | receive origin e =>
    have hd : (settled none d (.receive origin e)).1 = d := by
      simp only [settled, perform, unheard]
      split_ifs <;> rfl
    rw [hd]
    exact ⟨h, moved_same fun _ => rfl⟩
  | _ => simp [Step.isCardWork] at hw

/-- **Work on cards**, step after step: a card that is not moved is told of every item that is said
to be played. -/
theorem played_bridged {steps : List Step} {deeds : Deeds} {d' : Deck}
    (hp : Played steps d deeds d') (h : d.Bridged) (hw : ∀ s ∈ steps, s.isCardWork = true) :
    d'.Bridged ∧ ∀ name, (∀ s ∈ steps, s.moves name = false) →
      find? name d'.cards =
        (find? name d.cards).map fun c => deeds.announced.foldl Card.told c := by
  induction hp with
  | nil => exact ⟨h, fun name _ => by simp [Deeds.announced]⟩
  | quiet _ hs _ ih =>
    obtain ⟨h₁, hcards⟩ := settled_cases (log_bridged h []) (hw _ List.mem_cons_self) hs
    obtain ⟨h', ih⟩ := ih h₁ fun s hs => hw s (List.mem_cons_of_mem _ hs)
    refine ⟨h', fun name hn => ?_⟩
    rw [ih name fun s hs => hn s (List.mem_cons_of_mem _ hs),
      (hcards name).1 (hn _ List.mem_cons_self), Deeds.announced]
  | round _ hd _ ih =>
    have hl := log_bridged h []
    obtain ⟨hann, -, -, hcards⟩ := bridged_delivered hl hd
    obtain ⟨h', ih⟩ := ih (delivered_bridged hl hd) fun s hs => hw s (List.mem_cons_of_mem _ hs)
    refine ⟨h', fun name hn => ?_⟩
    rw [ih name fun s hs => hn s (List.mem_cons_of_mem _ hs), hcards, find?_tell, Option.map_map,
      Deeds.announced, hann]
    rfl

theorem mounted_cases {steps : List Step} {deeds : Deeds} {d' : Deck}
    (hp : Played steps d deeds d') (h : d.Bridged) (hw : ∀ s ∈ steps, s.isCardWork = true)
    {name : String} {c : Card} (hc : find? name d'.cards = some c)
    (ha : c.subscription.active = true) :
    (∃ pre post, steps = pre ++ .mount name c.item [] :: post ∧
      ∀ s ∈ post, s.moves name = false) ∨ ∀ s ∈ steps, s.moves name = false := by
  induction hp with
  | nil => exact Or.inr fun s hs => absurd hs List.not_mem_nil
  | @quiet s rest d d₁ d' deeds hpub hs ht ih =>
    obtain ⟨h₁, hcards⟩ := settled_cases (log_bridged h []) (hw _ List.mem_cons_self) hs
    have hwrest := fun s hs => hw s (List.mem_cons_of_mem _ hs)
    rcases ih h₁ hwrest hc with ⟨pre, post, hsplit, hpost⟩ | hrest
    · exact Or.inl ⟨s :: pre, post, by rw [hsplit, List.cons_append], hpost⟩
    · cases hm : s.moves name with
      | false => exact Or.inr (List.forall_mem_cons.mpr ⟨hm, hrest⟩)
      | true =>
        rw [(played_bridged ht h₁ hwrest).2 name hrest, Option.map_eq_some_iff] at hc
        obtain ⟨c₁, hc₁, rfl⟩ := hc
        rw [Card.foldl_told_subscription] at ha
        obtain ⟨hmount, -⟩ := (hcards name).2 c₁ hm hc₁ ha
        exact Or.inl ⟨[], rest, by rw [Card.foldl_told_item, hmount]; rfl, hrest⟩
  | @round s rest d d₁ d' e slots deeds hpub hd ht ih =>
    have h₁ := delivered_bridged (log_bridged h []) hd
    have hm : s.moves name = false := by
      cases s <;> first | rfl | simp [published?] at hpub
    rcases ih h₁ (fun s hs => hw s (List.mem_cons_of_mem _ hs)) hc with
      ⟨pre, post, hsplit, hpost⟩ | hrest
    · exact Or.inl ⟨s :: pre, post, by rw [hsplit, List.cons_append], hpost⟩
    · exact Or.inr (List.forall_mem_cons.mpr ⟨hm, hrest⟩)

theorem step_bridged (h : d.Bridged) (s : Step) : ∃ d' answer, d.step s = some (d', answer) := by
  rw [step]
  cases he : published? none { d with log := [] } s with
  | none => exact ⟨_, _, perform_of_quiet he⟩
  | some e =>
    obtain ⟨d', hd'⟩ :=
      bridged_publish (log_bridged h []) e (stepBudget s + handlersBudget d.bus.handlers)
    rw [perform_of_published he, budget, hd']
    exact ⟨_, _, rfl⟩

/-- **Every run returns.** -/
theorem run_bridged {steps : List Step} (h : d.Bridged) (hw : ∀ s ∈ steps, s.isCardWork = true) :
    ∃ d' answers, d.run steps = some (d', answers) := by
  induction steps generalizing d with
  | nil => exact ⟨d, [], rfl⟩
  | cons s rest ih =>
    obtain ⟨d₁, answer, hs⟩ := step_bridged h s
    obtain ⟨deeds, hp⟩ := played_of_step hs .nil
    have h₁ := (played_bridged hp h fun s' hs' => by
      rw [List.mem_singleton.mp hs']
      exact hw s List.mem_cons_self).1
    obtain ⟨d', answers, hrest⟩ := ih h₁ fun s' hs' => hw s' (List.mem_cons_of_mem _ hs')
    exact ⟨d', _, run_cons hs hrest⟩

end Steps

/-! ## Whole runs -/

theorem played_mount {pre : List Step} {d d' : Deck} {deeds : Deeds} (h : d.Bridged)
    (hw : ∀ s ∈ pre, s.isCardWork = true) {name : String} {item : Item}
    (hp : Played (pre ++ [.mount name item []]) d deeds d') : ∃ n,
      find? name d'.cards = some { item, subscription := { id := n } } := by
  obtain ⟨d₁, past, since, hpast, hlast⟩ := played_append hp
  have h₁ := (played_bridged hpast h hw).1
  cases hlast with
  | round hpub => cases hpub
  | quiet _ hs ht =>
    cases ht
    refine ⟨d₁.bus.nextId, ?_⟩
    rw [← hs]
    simp only [settled, perform, h₁.held, if_true, Option.getD_some, find?_mount]

theorem play_marked {d : Deck} {name : String} {c : Card} (hc : find? name d.cards = some c)
    (hm : c.playing = true) : published? none { d with log := [] } (.play name) = none ∧
      d.step (.play name) = some ({ d with log := [] }, .was false) := by
  refine ⟨?_, ?_⟩
  · simp [published?, hc, hm]
  · simp [step, perform, hc, hm]

/-- A press on the button of any other card: the bridge confirms, and all mounted cards are told. -/
theorem play_unmarked {d : Deck} (h : d.Bridged) {name : String} {c : Card}
    (hc : find? name d.cards = some c) (hm : c.playing = false) :
    ∃ d', d.step (.play name) = some (d', .was true) ∧ d'.cards = d.cards.map (tell c.item) := by
  have hl := log_bridged h []
  have hp : published? none { d with log := [] } (.play name) = some (.playRequested c.item) := by
    simp [published?, hc, hm]
  obtain ⟨d', hd'⟩ := bridged_publish hl (.playRequested c.item)
    (stepBudget (.play name) + handlersBudget d.bus.handlers)
  obtain ⟨slots, hs⟩ := delivered_of_publish hd'
  refine ⟨d', ?_, (bridged_delivered hl hs).2.2.2⟩
  rw [step, perform_of_published hp, budget, hd']
  simp [settled, perform, unheard, hc, hm]

theorem mem_tell {x : Item} {cards : List (String × Card)} {p : String × Card}
    (hp : p ∈ cards.map (tell x)) (ha : p.2.subscription.active = true) :
    p.2.playing = true ↔ p.2.item = x := by
  obtain ⟨q, -, rfl⟩ := List.mem_map.mp hp
  simp only [tell, Card.told_subscription, Card.told_item] at ha ⊢
  rw [Card.told_playing ha, eq_comm]

/-- **Playing, from end to end.** On a bus with the bridge and cards, whatever cards are mounted,
unmounted, dropped and played and whatever comes from outside:

* every delivery returns, and so does the run;
* a card that was mounted and not moved since is there, and every mounted card is one of these; it
  is marked if and only if the item that was said to be played last, since then, is its own;
* a card that is marked is not asked for again, and nothing is published;
* any other card that is asked for is confirmed, and then those mounted cards are marked whose item
  it is. -/
theorem playing_end_to_end (origin : String) {steps : List Step}
    (hw : ∀ s ∈ steps, s.isCardWork = true) :
    ∃ d answers, (bridged origin).run steps = some (d, answers) ∧
      (∀ depth e, ∃ d', publish (depth + 2) d e = some d') ∧
      (∀ pre name item post, steps = pre ++ .mount name item [] :: post →
        (∀ s ∈ post, s.moves name = false) →
        ∃ d₁ past since c, Played (pre ++ [.mount name item []]) (bridged origin) past d₁ ∧
          Played post d₁ since d ∧ find? name d.cards = some c ∧ c.item = item ∧
          c.subscription.active = true ∧
          (c.playing = true ↔ since.announced.getLast? = some item)) ∧
      (∀ name c, find? name d.cards = some c → c.subscription.active = true →
        ∃ pre post, steps = pre ++ .mount name c.item [] :: post ∧
          ∀ s ∈ post, s.moves name = false) ∧
      (∀ name c, find? name d.cards = some c → c.playing = true →
        published? none { d with log := [] } (.play name) = none ∧
          d.step (.play name) = some ({ d with log := [] }, .was false)) ∧
      ∀ name c, find? name d.cards = some c → c.playing = false →
        ∃ d', d.step (.play name) = some (d', .was true) ∧
          d'.cards = d.cards.map (tell c.item) ∧
          ∀ p ∈ d'.cards, p.2.subscription.active = true →
            (p.2.playing = true ↔ p.2.item = c.item) := by
  have hstart := bridged_start origin
  obtain ⟨d, answers, hrun⟩ := run_bridged hstart hw
  obtain ⟨deeds, hp⟩ := played_of_run hrun
  have hd := (played_bridged hp hstart hw).1
  refine ⟨d, answers, hrun, fun depth e => bridged_publish hd e depth,
    fun pre name item post hsplit hpost => ?_, fun name c hc ha => ?_,
    fun name c hc hm => play_marked hc hm, fun name c hc hm => ?_⟩
  · have hsplit' : steps = (pre ++ [.mount name item []]) ++ post := by simp [hsplit]
    rw [hsplit'] at hp hw
    obtain ⟨d₁, past, since, hpast, hsince⟩ := played_append hp
    obtain ⟨n, hc₁⟩ := played_mount hstart (fun s hs => hw s (by simp [hs])) hpast
    have h₁ := (played_bridged hpast hstart fun s hs => hw s (List.mem_append_left _ hs)).1
    have hc := (played_bridged hsince h₁ fun s hs => hw s (List.mem_append_right _ hs)).2 name hpost
    rw [hc₁, Option.map_some] at hc
    exact ⟨d₁, past, since, _, hpast, hsince, hc, Card.foldl_told_item _ _,
      by rw [Card.foldl_told_subscription], Card.foldl_told_playing rfl rfl _⟩
  · rcases mounted_cases hp hstart hw hc ha with hsplit | hnever
    · exact hsplit
    · rw [(played_bridged hp hstart hw).2 name hnever] at hc
      cases hc
  · obtain ⟨d', hstep, hcards⟩ := play_unmarked hd hc hm
    exact ⟨d', hstep, hcards, fun p hp ha => mem_tell (hcards ▸ hp) ha⟩

/-- Two cards; the first one is played, the second one is said to be played from outside, a foreign
origin is not listened to, and a third card comes too late. -/
theorem playing_end_to_end_of_three_cards :
    let x := Item.pin { rowId := 1 }
    let y := Item.pin { rowId := 2 }
    let steps := [.mount "a" x [], .mount "b" y [], .play "a", .receive localOrigin (.nowPlaying y),
      .receive "elsewhere" (.nowPlaying x), .mount "c" y []]
    (∀ s ∈ steps, s.isCardWork = true) ∧ ∃ d answers,
      (bridged localOrigin).run steps = some (d, answers) ∧
      d.cards.map (fun p => (p.1, p.2.playing)) = [("a", false), ("b", true), ("c", false)] ∧
      d.step (.play "b") = some ({ d with log := [] }, .was false) ∧
      ∃ d', d.step (.play "c") = some (d', .was true) ∧
        d'.cards.map (fun p => (p.1, p.2.playing)) = [("a", false), ("b", true), ("c", true)] := by
  intro x y steps
  have hw : ∀ s ∈ steps, s.isCardWork = true := by decide
  have hconcrete : (bridged localOrigin).run steps = some (_, _) := rfl
  obtain ⟨d, answers, hrun, -, -, -, hmarked, hunmarked⟩ :=
    playing_end_to_end localOrigin hw
  rw [hconcrete, Option.some.injEq, Prod.mk.injEq] at hrun
  obtain ⟨rfl, rfl⟩ := hrun
  obtain ⟨d', hstep, hcards, -⟩ := hunmarked "c" _ rfl rfl
  exact ⟨hw, _, _, hconcrete, rfl, (hmarked "b" _ rfl rfl).2, d', hstep, by rw [hcards]; rfl⟩

end Deck

end ListenDeck
