import ListenDeck.Proofs.Cards.Scores
import Mathlib.Data.List.Perm.Subperm

/-!
# The items of cards

A card plays the item it was mounted with, as long as it is there, and shows whatever item has its
key now. The two are the same when the card comes, and only a list that brings another item under
the key of a card sets them apart.

* `Face`, `Display`: the cards that are there, whatever their keys.
* `Display.Stays`, `Display.Follows`: no card has come, and those that have come play what they
  show.
* `Shelf.act_stays`, `Shelf.receive_stays`: presses and replies bring no card.
* `Shelf.Keyed`: the keys of the cards.
* `Shelf.arrange_follows_display`, `Shelf.arrange_stays`: a new list, and one without a key that is
  not there yet.
-/

namespace ListenDeck

theorem find?_of_nodup {α : Type} {number : α → Nat} {l : List α} (h : (l.map number).Nodup) {a : α}
    (ha : a ∈ l) : l.find? (number · = number a) = some a := by
  have there : (l.find? (number · = number a)).isSome = true := by
    rw [List.find?_isSome]
    exact ⟨a, ha, by simp⟩
  obtain ⟨b, find⟩ := Option.isSome_iff_exists.1 there
  have same : number b = number a := by simpa using List.find?_some find
  rw [find, List.inj_on_of_nodup_map h (List.mem_of_find?_eq_some find) ha same]

/-! ## Displays -/

/-- **A card that is there**, whatever its key. -/
structure Face where
  number : Nat
  /-- The item the card was mounted with. -/
  own : Item
  shown : Item
  playing : Bool
  deriving DecidableEq, Repr

/-- **The cards that are there.** -/
structure Display where
  /-- The number of cards mounted so far. -/
  mounted : Nat := 0
  faces : List Face := []
  deriving DecidableEq, Repr

namespace Display

/-- The cards are told apart by their numbers, all of which were given out. -/
structure Numbered (b : Display) : Prop where
  nodup : (b.faces.map (·.number)).Nodup
  lt : ∀ f ∈ b.faces, f.number < b.mounted

/-- The card of a number, while it is there. -/
def find? (b : Display) (card : Nat) : Option Face := b.faces.find? (·.number = card)

/-- **No card has come**: each was there before, and was mounted with the same item. -/
structure Stays (b b' : Display) : Prop where
  mounted : b'.mounted = b.mounted
  faces : ∀ f' ∈ b'.faces, ∃ f ∈ b.faces, f.number = f'.number ∧ f.own = f'.own

/-- **Each card was there before**, or it has a new number and shows the item it was mounted
with. -/
structure Follows (b b' : Display) : Prop where
  mounted : b.mounted ≤ b'.mounted
  faces : ∀ f' ∈ b'.faces, (b.mounted ≤ f'.number ∧ f'.own = f'.shown) ∨
    ∃ f ∈ b.faces, f.number = f'.number ∧ f.own = f'.own

variable {b b' b'' : Display}

theorem Numbered.find? (h : b.Numbered) {f : Face} (hf : f ∈ b.faces) :
    b.find? f.number = some f := find?_of_nodup h.nodup hf

theorem Numbered.find?_eq_none (h : b.Numbered) {card : Nat} (new : b.mounted ≤ card) :
    b.find? card = none := by
  rw [Display.find?, List.find?_eq_none]
  intro f hf number
  have lt := h.lt f hf
  rw [of_decide_eq_true number] at lt
  exact Nat.not_lt.2 new lt

theorem Stays.refl (b : Display) : b.Stays b := ⟨rfl, fun f hf => ⟨f, hf, rfl, rfl⟩⟩

theorem Stays.trans (h : b.Stays b') (h' : b'.Stays b'') : b.Stays b'' := by
  refine ⟨h'.mounted.trans h.mounted, fun f'' hf'' => ?_⟩
  obtain ⟨f', hf', number', own'⟩ := h'.faces f'' hf''
  obtain ⟨f, hf, number, own⟩ := h.faces f' hf'
  exact ⟨f, hf, number.trans number', own.trans own'⟩

theorem Stays.follows (h : b.Stays b') : b.Follows b' :=
  ⟨h.mounted.ge, fun f' hf' => .inr (h.faces f' hf')⟩

end Display

/-! ## Shelves -/

namespace Shelf

/-- The card as it is displayed. -/
def faceOf {κ : Type} (c : MountedCard κ) : Face where
  number := c.serial
  own := c.own
  shown := c.shown
  playing := c.playing

/-- The cards of a shelf as they are displayed. -/
def display {κ : Type} (s : Shelf κ) : Display where
  mounted := s.mounted
  faces := s.cards.map faceOf

section Display
variable {κ : Type} {s t : Shelf κ}

theorem Numbered.display (h : s.Numbered) : s.display.Numbered := by
  refine ⟨?_, fun f hf => ?_⟩
  · simpa only [Shelf.display, List.map_map, Function.comp_def, faceOf] using h.nodup
  · obtain ⟨c, hc, rfl⟩ := List.mem_map.1 hf
    exact h.lt c hc

theorem stays_of_same (h : t.cards.map (fun c => (c.serial, c.own)) =
    s.cards.map fun c => (c.serial, c.own)) (mounted : t.mounted = s.mounted) :
    s.display.Stays t.display := by
  refine ⟨mounted, fun f' hf' => ?_⟩
  obtain ⟨c', hc', rfl⟩ := List.mem_map.1 hf'
  have there : (c'.serial, c'.own) ∈ s.cards.map fun c => (c.serial, c.own) :=
    h ▸ List.mem_map_of_mem hc'
  obtain ⟨c, hc, same⟩ := List.mem_map.1 there
  obtain ⟨serial, own⟩ := Prod.mk.inj same
  exact ⟨faceOf c, List.mem_map_of_mem hc, serial, own⟩

/-- **A press of a button** brings no card. -/
theorem act_stays (s : Shelf κ) (session : Session) (grace : Nat) (removal : Action) (serial : Nat)
    (m : CardMessage) : s.display.Stays (s.act session grace removal serial m).1.display :=
  stays_of_same (s.act_map (fun _ _ => rfl) session grace removal serial m)
    (s.act_rest session grace removal serial m).1

theorem settle_of_receive? {now serial grace : Nat} {item : Item} {m : Mutation}
    {reply : Except ServerError Nat} {settlement : Settlement} {effects : List PageEffect}
    (h : s.receive? now serial item m grace reply = some (settlement, t, effects)) :
    ∃ place deadline, t = (s.settle serial place deadline settlement).1 := by
  unfold receive? at h
  split_ifs at h
  obtain ⟨rfl, ht⟩ := Prod.mk.inj (Option.some.inj h)
  exact ⟨_, _, (congrArg Prod.fst ht).symm⟩

/-- **The reply to a call** brings no card. -/
theorem receive_stays {now serial grace : Nat} {item : Item} {m : Mutation}
    {reply : Except ServerError Nat} {settlement : Settlement} {effects : List PageEffect}
    (h : s.receive? now serial item m grace reply = some (settlement, t, effects)) :
    s.display.Stays t.display := by
  obtain ⟨place, deadline, rfl⟩ := settle_of_receive? h
  exact stays_of_same (s.settle_map (fun _ _ => rfl) (fun _ => rfl) serial _ _ _)
    (s.settle_mounted serial _ _ _)

theorem Numbered.find? (h : s.Numbered) {c : MountedCard κ} (hc : c ∈ s.cards) :
    s.find? c.serial = some c := find?_of_nodup h.nodup hc

/-- **What the play button of a card asks for**: the item the card was mounted with, unless the card
is playing. -/
theorem act_play (h : s.Numbered) {c : MountedCard κ} (hc : c ∈ s.cards) (session : Session)
    (grace : Nat) (removal : Action) : (s.act session grace removal c.serial .play).2 =
      if c.playing = true then [] else [.request c.own] := by
  simp only [act, h.find? hc, play]
  split_ifs <;> rfl

/-! ### Keys -/

/-- **The cards have these keys**, in their order, and numbers of their own. -/
structure Keyed (s : Shelf κ) (keys : List κ) : Prop where
  keys : s.cards.map (·.key) = keys
  numbered : s.Numbered

theorem keyed_empty : ({} : Shelf κ).Keyed [] :=
  ⟨rfl, List.nodup_nil, fun _ h => absurd h List.not_mem_nil⟩

theorem Keyed.of_same {keys : List κ} (h : s.Keyed keys)
    (same : t.cards.map (fun c => (c.key, c.serial)) = s.cards.map fun c => (c.key, c.serial))
    (mounted : t.mounted = s.mounted) : t.Keyed keys := by
  have map {α : Type} (f : κ × Nat → α) : t.cards.map (fun c => f (c.key, c.serial)) =
      s.cards.map fun c => f (c.key, c.serial) := by
    simpa only [List.map_map, Function.comp_def] using congrArg (List.map f) same
  exact ⟨(map Prod.fst).trans h.keys, numbered_of_serials h.numbered (map Prod.snd) mounted⟩

theorem Keyed.act {keys : List κ} (h : s.Keyed keys) (session : Session) (grace : Nat)
    (removal : Action) (serial : Nat) (m : CardMessage) :
    (s.act session grace removal serial m).1.Keyed keys :=
  h.of_same (s.act_map (fun _ _ => rfl) session grace removal serial m)
    (s.act_rest session grace removal serial m).1

theorem Keyed.receive {keys : List κ} (h : s.Keyed keys) {now serial grace : Nat} {item : Item}
    {m : Mutation} {reply : Except ServerError Nat} {settlement : Settlement}
    {effects : List PageEffect}
    (received : s.receive? now serial item m grace reply = some (settlement, t, effects)) :
    t.Keyed keys := by
  obtain ⟨place, deadline, rfl⟩ := settle_of_receive? received
  exact h.of_same (s.settle_map (fun _ _ => rfl) (fun _ => rfl) serial _ _ _)
    (s.settle_mounted serial _ _ _)

section Arrange
variable [DecidableEq κ]

theorem arrange_keyed (h : s.Numbered) (wanted : List (WantedCard κ)) :
    (s.arrange wanted).Keyed (wanted.map (·.key)) :=
  ⟨s.arrange_keys wanted, arrange_numbered h wanted⟩

theorem mem_of_mem_arrange_removals {wanted : List (WantedCard κ)} {r : CardRemoval}
    (h : r ∈ (s.arrange wanted).removals) : r ∈ s.removals := List.mem_of_mem_filter h

/-- **A new list** brings cards that play what they show. -/
theorem arrange_follows_display (h : s.Numbered) (wanted : List (WantedCard κ)) :
    s.display.Follows (s.arrange wanted).display := by
  refine ⟨arrange_mounted_le h wanted, fun f' hf' => ?_⟩
  obtain ⟨d, hd, rfl⟩ := List.mem_map.1 hf'
  rcases arrange_origin s wanted d hd with ⟨t, ht, rfl⟩ | ⟨new, w, -, shown, -, own⟩
  · exact .inr ⟨faceOf t.1, List.mem_map_of_mem (takenFrom_spec t ht).1, rfl, rfl⟩
  · exact .inl ⟨new, own.trans shown.symm⟩

/-- Where all keys are there already, every card is taken over. -/
theorem arrangeFrom_of_subperm (mounted : Nat) {old : List (MountedCard κ)}
    {wanted : List (WantedCard κ)} (h : (wanted.map (·.key)).Subperm (old.map (·.key))) :
    (arrangeFrom mounted old wanted).2 = mounted ∧
      ∀ d ∈ (arrangeFrom mounted old wanted).1, ∃ c ∈ old, c.serial = d.serial ∧ c.own = d.own := by
  induction wanted generalizing old with
  | nil => exact ⟨rfl, fun d hd => absurd hd List.not_mem_nil⟩
  | cons w rest ih =>
    obtain ⟨c, hc, key⟩ := List.mem_map.1 (h.subset List.mem_cons_self)
    have some_card : (old.find? (·.key = w.key)).isSome = true := by
      rw [List.find?_isSome]
      exact ⟨c, hc, by simpa using key⟩
    obtain ⟨c, find⟩ := Option.isSome_iff_exists.1 some_card
    have key : c.key = w.key := by simpa using List.find?_some find
    -- the card of the key leaves the old ones, and the other keys are there still
    have others : (rest.map (·.key)).Subperm ((old.eraseP (·.key = w.key)).map (·.key)) := by
      have perm := (perm_eraseP find).map (·.key)
      rw [List.map_cons, key] at perm
      exact (List.subperm_cons _).1 (h.trans perm.subperm)
    obtain ⟨same, taken⟩ := ih others
    simp only [arrangeFrom, find]
    refine ⟨same, fun d hd => ?_⟩
    rcases List.mem_cons.1 hd with rfl | hd
    · exact ⟨c, List.mem_of_find?_eq_some find, rfl, rfl⟩
    · obtain ⟨c', hc', both⟩ := taken d hd
      exact ⟨c', List.mem_of_mem_eraseP hc', both⟩

/-- **A list without a new key** brings no card. -/
theorem arrange_stays {wanted : List (WantedCard κ)}
    (h : (wanted.map (·.key)).Subperm (s.cards.map (·.key))) :
    s.display.Stays (s.arrange wanted).display := by
  obtain ⟨mounted, taken⟩ := arrangeFrom_of_subperm s.mounted h
  refine ⟨mounted, fun f' hf' => ?_⟩
  obtain ⟨d, hd, rfl⟩ := List.mem_map.1 hf'
  obtain ⟨c, hc, serial, own⟩ := taken d hd
  exact ⟨faceOf c, List.mem_map_of_mem hc, serial, own⟩

end Arrange

end Display

end Shelf

end ListenDeck
