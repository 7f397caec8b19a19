import ListenDeck.Proofs.Playback.Ledger
import ListenDeck.Proofs.Playback.Moments
import Mathlib.Data.List.Perm.Basic
import Mathlib.Data.List.Range

/-!
# The books of a bus

What subscribers hold of their subscriptions and what is registered on the bus, side by side.

* `Bus.Booked`: of the subscriptions that are held, those that have not ended are the ones that are
  registered, each once.
* `Deck.Standing`: a bus with the subscriptions that are held of it, at some deck or between a new
  subscription and the end of the one it replaces.
* `Deck.Kept`: the books of a deck are kept; every change keeps them (`Deck.Change.kept`).
* `Deck.Passage.given`: the numbers that are given out count up from zero.
* `Deck.books_balance`: the books balance at every deck that occurs, and a subscription that ends,
  once or often, takes nothing with it but its own registration.
-/

namespace ListenDeck

/-! ## Values of a name and the others -/

namespace Named

section Perm
variable {α : Type} {name : String} {a : α} {l : List (String × α)}

theorem perm_of_find? (hl : (l.map Prod.fst).Nodup) (h : find? name l = some a) :
    l.Perm ((name, a) :: erase name l) := by
  induction l with
  | nil => cases h
  | cons p rest ih =>
    obtain ⟨n, b⟩ := p
    rw [List.map_cons, List.nodup_cons] at hl
    by_cases hn : n = name
    · subst hn
      have hb : b = a := by simpa [find?] using h
      have hrest : erase n rest = rest :=
        List.filter_eq_self.mpr fun q hq =>
          decide_eq_true fun he => hl.1 (List.mem_map.mpr ⟨q, hq, he⟩)
      have he : erase n ((n, b) :: rest) = erase n rest := by simp [erase]
      rw [he, hrest, hb]
    · have hf : find? name rest = some a := by
        have hne : (name == n) = false := by simpa using fun he : name = n => hn he.symm
        rwa [find?, List.lookup_cons, hne] at h
      have he : erase name ((n, b) :: rest) = (n, b) :: erase name rest := by simp [erase, hn]
      rw [he]
      exact ((ih hl.2 hf).cons _).trans (List.Perm.swap _ _ _)

theorem perm_put (hl : (l.map Prod.fst).Nodup) :
    (put name a l).Perm ((name, a) :: erase name l) := by
  have hf : find? name (put name a l) = some a := by rw [find?_put, if_pos rfl]
  have he : erase name (put name a l) = erase name l := by
    clear hl hf
    induction l with
    | nil => simp [put, erase]
    | cons p rest ih => grind [put, erase]
  rw [← he]
  exact perm_of_find? (nodup_put hl) hf

theorem nodup_erase (hl : (l.map Prod.fst).Nodup) : ((erase name l).map Prod.fst).Nodup :=
  hl.sublist (List.filter_sublist.map _)

end Perm

end Named

/-! ## What is registered and what is held -/

namespace Bus

/-- The bus after a subscription ended, unless it had ended before. -/
def ended (b : Bus) (s : Subscription) : Bus := if s.active then b.remove s.id else b

/-- **The books balance**: of the subscriptions that are held, those that have not ended are the
ones that are registered, each once. -/
structure Booked (b : Bus) (held : List Subscription) : Prop where
  numbered : b.Numbered
  given : ∀ s ∈ held, s.id < b.nextId
  apart : (held.map (·.id)).Nodup
  registered : b.ids.Perm ((held.filter (·.active)).map (·.id))

theorem ids_remove (b : Bus) (id : Nat) : (b.remove id).ids = b.ids.filter (· ≠ id) := by
  simp only [remove, ids, List.filter_map]
  rfl

theorem remove_of_notMem {b : Bus} {id : Nat} (h : id ∉ b.ids) : b.remove id = b := by
  have hf : b.handlers.filter (·.1 ≠ id) = b.handlers :=
    List.filter_eq_self.mpr fun p hp => decide_eq_true fun he => h (he ▸ mem_ids_of_mem hp)
  rw [remove, hf]

theorem remove_remove (b : Bus) (id : Nat) : (b.remove id).remove id = b.remove id :=
  remove_of_notMem (by simp [ids_remove])

section Booked
variable {b : Bus} {held held' rest : List Subscription} {s : Subscription}

theorem booked_start (origin : String) : Booked { origin } [] where
  numbered := numbered_start origin
  given := by simp
  apart := List.nodup_nil
  registered := List.Perm.nil

theorem Booked.perm (h : b.Booked held) (hp : held.Perm held') : b.Booked held' where
  numbered := h.numbered
  given := fun s hs => h.given s (hp.mem_iff.mpr hs)
  apart := (hp.map _).nodup_iff.mp h.apart
  registered := h.registered.trans ((hp.filter _).map _)

/-- **A subscription is active exactly as long as it is registered.** -/
theorem Booked.active_iff (h : b.Booked held) (hs : s ∈ held) : s.active = true ↔ s.id ∈ b.ids := by
  rw [h.registered.mem_iff, List.mem_map]
  constructor
  · intro ha
    exact ⟨s, List.mem_filter.mpr ⟨hs, ha⟩, rfl⟩
  · rintro ⟨t, ht, he⟩
    obtain ⟨htm, hta⟩ := List.mem_filter.mp ht
    rw [← List.inj_on_of_nodup_map h.apart htm hs he]
    exact hta

/-- **As many handlers are registered as there are active subscriptions.** -/
theorem Booked.count (h : b.Booked held) : b.count = held.countP (·.active) := by
  have hl := h.registered.length_eq
  rwa [List.length_map, ← List.countP_eq_length_filter, ids, List.length_map] at hl

/-- A subscription that ends takes its own registration with it, if there still is one. -/
theorem Booked.ended_eq (h : b.Booked held) (hs : s ∈ held) : b.ended s = b.remove s.id := by
  unfold ended
  split_ifs with ha
  · rfl
  · exact (remove_of_notMem fun hm => ha ((h.active_iff hs).mpr hm)).symm

theorem Booked.subscribe (h : b.Booked held) (handler : Handler) :
    (b.subscribe handler).1.Booked ({ id := b.nextId } :: held) where
  numbered := numbered_subscribe h.numbered handler
  given := by
    intro s hs
    have hn : (b.subscribe handler).1.nextId = b.nextId + 1 := rfl
    rcases List.mem_cons.mp hs with rfl | hs
    · exact hn ▸ Nat.lt_succ_self _
    · exact hn ▸ Nat.lt_succ_of_lt (h.given s hs)
  apart := by
    refine List.nodup_cons.mpr ⟨fun hm => ?_, h.apart⟩
    obtain ⟨t, ht, he⟩ := List.mem_map.mp hm
    exact absurd he (Nat.ne_of_lt (h.given t ht))
  registered := by
    rw [ids_subscribe]
    exact (List.perm_append_singleton _ _).trans (h.registered.cons _)

theorem Booked.drop (h : b.Booked (s :: rest)) : (b.ended s).Booked rest := by
  have hs := h.ended_eq List.mem_cons_self
  obtain ⟨hns, hnd⟩ := List.nodup_cons.mp h.apart
  rw [hs]
  refine ⟨numbered_remove h.numbered _, fun t ht => h.given t (List.mem_cons_of_mem _ ht), hnd, ?_⟩
  have hrest : ((rest.filter (·.active)).map (·.id)).filter (· ≠ s.id) =
      (rest.filter (·.active)).map (·.id) := by
    refine List.filter_eq_self.mpr fun id hid => decide_eq_true ?_
    rintro rfl
    exact hns ((List.filter_sublist.map _).subset hid)
  have hp := h.registered.filter (· ≠ s.id)
  rw [← ids_remove, List.filter_cons] at hp
  split_ifs at hp with ha
  · rwa [List.map_cons, List.filter_cons_of_neg (by simp), hrest] at hp
  · rwa [hrest] at hp

theorem Booked.unsubscribe (h : b.Booked (s :: rest)) :
    (b.ended s).Booked ({ s with active := false } :: rest) := by
  have hd := h.drop
  refine ⟨hd.numbered, fun t ht => ?_, h.apart, ?_⟩
  · rcases List.mem_cons.mp ht with rfl | ht
    · have hn : (b.ended s).nextId = b.nextId := by rw [h.ended_eq List.mem_cons_self]; rfl
      rw [hn]
      exact h.given s List.mem_cons_self
    · exact hd.given t ht
  · rw [List.filter_cons_of_neg (by simp)]
    exact hd.registered

end Booked

end Bus

namespace Deck

open Named

/-- The subscriptions that are held, by handles and by cards. -/
def subscriptions (d : Deck) : List Subscription :=
  d.handles.map (·.2) ++ d.cards.map (·.2.subscription)

/-- **The books of a deck are kept**: each name stands once, and the books balance. -/
structure Kept (d : Deck) : Prop where
  handleNames : (d.handles.map Prod.fst).Nodup
  cardNames : (d.cards.map Prod.fst).Nodup
  booked : d.bus.Booked d.subscriptions

theorem kept_start (origin : String) : (start origin).Kept :=
  ⟨List.nodup_nil, List.nodup_nil, Bus.booked_start origin⟩

theorem release_eq (d : Deck) (s : Subscription) :
    d.release s = { d with bus := d.bus.ended s } := by
  unfold release Bus.ended
  split_ifs <;> rfl

/-! ## The subscription of a name and the others -/

section Subscriptions
variable {d : Deck} {name : String}

theorem subscriptions_of_handle {s : Subscription} (hn : (d.handles.map Prod.fst).Nodup)
    (hs : find? name d.handles = some s) :
    d.subscriptions.Perm (s :: { d with handles := erase name d.handles }.subscriptions) :=
  ((perm_of_find? hn hs).map _).append_right _

variable (name) in
theorem subscriptions_put_handle (s : Subscription) (hn : (d.handles.map Prod.fst).Nodup) :
    { d with handles := put name s d.handles }.subscriptions.Perm
      (s :: { d with handles := erase name d.handles }.subscriptions) :=
  ((perm_put hn).map _).append_right _

theorem subscriptions_of_card {c : Card} (hn : (d.cards.map Prod.fst).Nodup)
    (hc : find? name d.cards = some c) :
    d.subscriptions.Perm
      (c.subscription :: { d with cards := erase name d.cards }.subscriptions) :=
  (((perm_of_find? hn hc).map _).append_left _).trans List.perm_middle

variable (name) in
theorem subscriptions_put_card (c : Card) (hn : (d.cards.map Prod.fst).Nodup) :
    { d with cards := put name c d.cards }.subscriptions.Perm
      (c.subscription :: { d with cards := erase name d.cards }.subscriptions) :=
  (((perm_put hn).map _).append_left _).trans List.perm_middle

end Subscriptions

/-! ## Every change keeps the books -/

section Kept
variable {d : Deck} (h : d.Kept)
include h

theorem Kept.subscribe (name : String) (reactions : List Reaction) :
    (d.subscribe name reactions).Kept := by
  have hb := h.booked.subscribe (.program name reactions)
  have hput := subscriptions_put_handle name { id := d.bus.nextId } h.handleNames
  unfold Deck.subscribe
  cases ho : find? name d.handles with
  | none =>
    rw [erase_of_none ho] at hput
    exact ⟨nodup_put h.handleNames, h.cardNames, hb.perm hput.symm⟩
  | some old =>
    have hold := subscriptions_of_handle h.handleNames ho
    have hb' := (hb.perm ((hold.cons _).trans (List.Perm.swap _ _ _))).drop
    simp only [Option.elim_some, release_eq]
    exact ⟨nodup_put h.handleNames, h.cardNames, hb'.perm hput.symm⟩

theorem Kept.unsubscribe (name : String) : (d.unsubscribe name).Kept := by
  unfold Deck.unsubscribe
  cases hs : find? name d.handles with
  | none => exact h
  | some s =>
    have hb := (h.booked.perm (subscriptions_of_handle h.handleNames hs)).unsubscribe
    simp only [release_eq]
    exact ⟨nodup_put h.handleNames, h.cardNames,
      hb.perm (subscriptions_put_handle name _ h.handleNames).symm⟩

theorem Kept.drop (name : String) : (d.drop name).1.Kept := by
  unfold Deck.drop
  cases hs : find? name d.handles with
  | none => exact h
  | some s =>
    have hb := (h.booked.perm (subscriptions_of_handle h.handleNames hs)).drop
    simp only [release_eq]
    exact ⟨nodup_erase h.handleNames, h.cardNames, hb⟩

theorem Kept.mount (name : String) (item : Item) (onFlip : List Reaction) :
    (d.mount name item onFlip).Kept := by
  have hb := h.booked.subscribe (.card name item onFlip)
  have hput := subscriptions_put_card name
    { item, subscription := { id := d.bus.nextId } } h.cardNames
  unfold Deck.mount
  cases ho : find? name d.cards with
  | none =>
    rw [erase_of_none ho] at hput
    exact ⟨h.handleNames, nodup_put h.cardNames, hb.perm hput.symm⟩
  | some old =>
    have hold := subscriptions_of_card h.cardNames ho
    have hb' := (hb.perm ((hold.cons _).trans (List.Perm.swap _ _ _))).drop
    simp only [Option.elim_some, release_eq]
    exact ⟨h.handleNames, nodup_put h.cardNames, hb'.perm hput.symm⟩

theorem Kept.unmount (name : String) : (d.unmount name).Kept := by
  unfold Deck.unmount
  cases hc : find? name d.cards with
  | none => exact h
  | some c =>
    have hb := (h.booked.perm (subscriptions_of_card h.cardNames hc)).unsubscribe
    have hput := subscriptions_put_card name
      { c with subscription := { c.subscription with active := false } } h.cardNames
    simp only [release_eq]
    exact ⟨h.handleNames, nodup_put h.cardNames, hb.perm hput.symm⟩

theorem Kept.dropCard (name : String) : (d.dropCard name).1.Kept := by
  unfold Deck.dropCard
  cases hc : find? name d.cards with
  | none => exact h
  | some c =>
    have hb := (h.booked.perm (subscriptions_of_card h.cardNames hc)).drop
    simp only [release_eq]
    exact ⟨h.handleNames, nodup_erase h.cardNames, hb⟩

theorem Kept.setPlaying (id : Nat) (playing : Bool) : (d.setPlaying id playing).Kept := by
  have hn : (d.setPlaying id playing).cards.map Prod.fst = d.cards.map Prod.fst := by
    simp only [Deck.setPlaying, List.map_map]
    exact List.map_congr_left fun c _ => by simp only [Function.comp_apply]; split_ifs <;> rfl
  have hs : (d.setPlaying id playing).cards.map (·.2.subscription) =
      d.cards.map (·.2.subscription) := by
    simp only [Deck.setPlaying, List.map_map]
    exact List.map_congr_left fun c _ => by simp only [Function.comp_apply]; split_ifs <;> rfl
  refine ⟨h.handleNames, hn ▸ h.cardNames, ?_⟩
  rw [subscriptions, hs]
  exact h.booked

theorem Kept.opening (id : Nat) (e : PlaybackEvent) (handler : Handler) :
    (d.opening id e handler).1.Kept := by
  cases handler with
  | program name reactions => exact ⟨h.handleNames, h.cardNames, h.booked⟩
  | card name item onFlip =>
    cases e with
    | playRequested x => exact h
    | nowPlaying x =>
      simp only [Deck.opening]
      split_ifs
      · have hk := h.setPlaying id (decide (x = item))
        exact ⟨hk.handleNames, hk.cardNames, hk.booked⟩
      · exact h

/-- **Every change keeps the books.** -/
theorem Change.kept {new : List Nat} {d' : Deck} (hc : d.Change new d') : d'.Kept := by
  cases hc with
  | subscribe name reactions => exact h.subscribe name reactions
  | mount card item onFlip => exact h.mount card item onFlip
  | unsubscribe name => exact h.unsubscribe name
  | drop name => exact h.drop name
  | unmount card => exact h.unmount card
  | dropCard card => exact h.dropCard card
  | dropBus => exact ⟨h.handleNames, h.cardNames, h.booked⟩
  | opening id e handler => exact h.opening id e handler
  | use id place => exact ⟨h.handleNames, h.cardNames, h.booked⟩
  | forget => exact ⟨h.handleNames, h.cardNames, h.booked⟩

end Kept

/-! ## The numbers that are given out -/

theorem Change.nextId {d d' : Deck} {new : List Nat} (hc : d.Change new d') :
    new = [] ∧ d'.bus.nextId = d.bus.nextId ∨
      new = [d.bus.nextId] ∧ d'.bus.nextId = d.bus.nextId + 1 := by
  cases hc with
  | subscribe name reactions =>
    refine Or.inr ⟨rfl, ?_⟩
    unfold Deck.subscribe
    cases find? name d.handles with
    | none => rfl
    | some s => exact release_nextId _ s
  | mount name item onFlip =>
    refine Or.inr ⟨rfl, ?_⟩
    unfold Deck.mount
    cases find? name d.cards with
    | none => rfl
    | some c => exact release_nextId _ c.subscription
  | unsubscribe name =>
    refine Or.inl ⟨rfl, ?_⟩
    unfold Deck.unsubscribe
    split
    · rfl
    · exact release_nextId d _
  | drop name =>
    refine Or.inl ⟨rfl, ?_⟩
    unfold Deck.drop
    split
    · rfl
    · exact release_nextId d _
  | unmount name =>
    refine Or.inl ⟨rfl, ?_⟩
    unfold Deck.unmount
    split
    · rfl
    · exact release_nextId d _
  | dropCard name =>
    refine Or.inl ⟨rfl, ?_⟩
    unfold Deck.dropCard
    split
    · rfl
    · exact release_nextId d _
  | dropBus => exact Or.inl ⟨rfl, rfl⟩
  | opening id e handler => exact Or.inl ⟨rfl, by rw [opening_bus]⟩
  | use id place => exact Or.inl ⟨rfl, rfl⟩
  | forget => exact Or.inl ⟨rfl, rfl⟩

/-- **The numbers that are given out** on the way from a deck with nothing on it count up from
zero. -/
theorem Passage.given {origin : String} {given : List Nat} {m : Deck}
    (h : (start origin).Passage given m) : given = List.range m.bus.nextId := by
  induction h with
  | refl => rfl
  | step _ hc ih =>
    rcases hc.nextId with ⟨rfl, hn⟩ | ⟨rfl, hn⟩
    · rw [List.append_nil, hn]
      exact ih
    · rw [hn, List.range_succ, ← ih]

theorem Passage.kept {d m : Deck} {given : List Nat} (hd : d.Kept) (h : d.Passage given m) :
    m.Kept := by
  induction h with
  | refl => exact hd
  | step _ hc ih => exact hc.kept ih

/-! ## Subscriptions that end -/

/-- The ways a subscription ends. -/
inductive Ending where
  /-- By its holder, who keeps it. -/
  | unsubscribe
  /-- With its holder. -/
  | drop
  deriving DecidableEq, Repr

/-- The subscription of a handle ends. -/
def endHandle (name : String) (d : Deck) : Ending → Deck
  | .unsubscribe => d.unsubscribe name
  | .drop => (d.drop name).1

/-- The subscription of a card ends. -/
def endCard (name : String) (d : Deck) : Ending → Deck
  | .unsubscribe => d.unmount name
  | .drop => (d.dropCard name).1

section Endings
variable {d : Deck} (h : d.Kept) {name : String}
include h

theorem Kept.endHandle (name : String) (e : Ending) : (d.endHandle name e).Kept :=
  match e with
  | .unsubscribe => h.unsubscribe name
  | .drop => h.drop name

theorem Kept.endCard (name : String) (e : Ending) : (d.endCard name e).Kept :=
  match e with
  | .unsubscribe => h.unmount name
  | .drop => h.dropCard name

theorem Kept.handle_mem {s : Subscription} (hs : find? name d.handles = some s) :
    s ∈ d.subscriptions :=
  (subscriptions_of_handle h.handleNames hs).mem_iff.mpr List.mem_cons_self

theorem Kept.card_mem {c : Card} (hc : find? name d.cards = some c) :
    c.subscription ∈ d.subscriptions :=
  (subscriptions_of_card h.cardNames hc).mem_iff.mpr List.mem_cons_self

theorem Kept.endHandle_eq {s : Subscription} (hs : find? name d.handles = some s) (e : Ending) :
    ∃ handles, d.endHandle name e = { d with bus := d.bus.remove s.id, handles } ∧
      (∀ other, other ≠ name → find? other handles = find? other d.handles) ∧
      ∀ s', find? name handles = some s' → s'.id = s.id := by
  have hb := h.booked.ended_eq (h.handle_mem hs)
  cases e with
  | unsubscribe =>
    refine ⟨put name { s with active := false } d.handles, ?_, fun other ho => ?_, fun s' hs' => ?_⟩
    · simp only [Deck.endHandle, Deck.unsubscribe, hs, release_eq, hb]
    · rw [find?_put, if_neg ho]
    · rw [find?_put, if_pos rfl] at hs'
      rw [← Option.some.inj hs']
  | drop =>
    refine ⟨erase name d.handles, ?_, fun other ho => ?_, fun s' hs' => ?_⟩
    · simp only [Deck.endHandle, Deck.drop, hs, release_eq, hb]
    · rw [find?_erase, if_neg ho]
    · rw [find?_erase, if_pos rfl] at hs'
      cases hs'

theorem Kept.endCard_eq {c : Card} (hc : find? name d.cards = some c) (e : Ending) :
    ∃ cards, d.endCard name e = { d with bus := d.bus.remove c.subscription.id, cards } ∧
      (∀ other, other ≠ name → find? other cards = find? other d.cards) ∧
      ∀ c', find? name cards = some c' → c'.subscription.id = c.subscription.id := by
  have hb := h.booked.ended_eq (h.card_mem hc)
  cases e with
  | unsubscribe =>
    refine ⟨put name { c with subscription := { c.subscription with active := false } } d.cards, ?_,
      fun other ho => ?_, fun c' hc' => ?_⟩
    · simp only [Deck.endCard, Deck.unmount, hc, release_eq, hb]
    · rw [find?_put, if_neg ho]
    · rw [find?_put, if_pos rfl] at hc'
      rw [← Option.some.inj hc']
  | drop =>
    refine ⟨erase name d.cards, ?_, fun other ho => ?_, fun c' hc' => ?_⟩
    · simp only [Deck.endCard, Deck.dropCard, hc, release_eq, hb]
    · rw [find?_erase, if_neg ho]
    · rw [find?_erase, if_pos rfl] at hc'
      cases hc'

omit h in
theorem endHandle_of_none (hs : find? name d.handles = none) (ends : List Ending) :
    ends.foldl (Deck.endHandle name) d = d := by
  induction ends with
  | nil => rfl
  | cons e rest ih =>
    have he : d.endHandle name e = d := by
      cases e <;> simp only [Deck.endHandle, Deck.unsubscribe, Deck.drop, hs]
    rw [List.foldl_cons, he]
    exact ih

omit h in
theorem endCard_of_none (hc : find? name d.cards = none) (ends : List Ending) :
    ends.foldl (Deck.endCard name) d = d := by
  induction ends with
  | nil => rfl
  | cons e rest ih =>
    have he : d.endCard name e = d := by
      cases e <;> simp only [Deck.endCard, Deck.unmount, Deck.dropCard, hc]
    rw [List.foldl_cons, he]
    exact ih

/-- **A handle's subscription ends for good**: however often it is ended, its own registration goes
and nothing else. -/
theorem Kept.endHandles {s : Subscription} (hs : find? name d.handles = some s) (e : Ending)
    (ends : List Ending) : ∃ handles,
      (e :: ends).foldl (Deck.endHandle name) d =
        { d with bus := d.bus.remove s.id, handles } ∧
      ∀ other, other ≠ name → find? other handles = find? other d.handles := by
  induction ends generalizing d s e with
  | nil =>
    obtain ⟨handles, hd, hother, -⟩ := h.endHandle_eq hs e
    exact ⟨handles, hd, hother⟩
  | cons e' rest ih =>
    obtain ⟨handles, hd, hother, hid⟩ := h.endHandle_eq hs e
    have hk := h.endHandle name e
    rw [List.foldl_cons, hd]
    rw [hd] at hk
    cases hf : find? name handles with
    | none => exact ⟨handles, endHandle_of_none hf _, hother⟩
    | some s' =>
      obtain ⟨handles', hd', hother'⟩ := ih hk hf e'
      refine ⟨handles', ?_, fun other ho => (hother' other ho).trans (hother other ho)⟩
      rw [hd', hid s' hf, Bus.remove_remove]

/-- **A card's subscription ends for good**, likewise. -/
theorem Kept.endCards {c : Card} (hc : find? name d.cards = some c) (e : Ending)
    (ends : List Ending) : ∃ cards,
      (e :: ends).foldl (Deck.endCard name) d =
        { d with bus := d.bus.remove c.subscription.id, cards } ∧
      ∀ other, other ≠ name → find? other cards = find? other d.cards := by
  induction ends generalizing d c e with
  | nil =>
    obtain ⟨cards, hd, hother, -⟩ := h.endCard_eq hc e
    exact ⟨cards, hd, hother⟩
  | cons e' rest ih =>
    obtain ⟨cards, hd, hother, hid⟩ := h.endCard_eq hc e
    have hk := h.endCard name e
    rw [List.foldl_cons, hd]
    rw [hd] at hk
    cases hf : find? name cards with
    | none => exact ⟨cards, endCard_of_none hf _, hother⟩
    | some c' =>
      obtain ⟨cards', hd', hother'⟩ := ih hk hf e'
      refine ⟨cards', ?_, fun other ho => (hother' other ho).trans (hother other ho)⟩
      rw [hd', hid c' hf, Bus.remove_remove]

end Endings

/-! ## The books balance -/

/-- **A bus with the subscriptions that are held of it**, at a deck or close to it. -/
inductive Standing (m : Deck) : Bus → List Subscription → Prop where
  | own : Standing m m.bus m.subscriptions
  /-- Somebody has subscribed under a name, and what he replaces is not ended yet. -/
  | replacing (handler : Handler) :
      Standing m (m.bus.subscribe handler).1 ({ id := m.bus.nextId } :: m.subscriptions)

theorem Standing.booked {m : Deck} (hm : m.Kept) {b : Bus} {held : List Subscription}
    (h : m.Standing b held) : b.Booked held := by
  cases h with
  | own => exact hm.booked
  | replacing handler => exact hm.booked.subscribe handler

/-- **The books balance** at every deck that occurs while steps are taken by hand, between them or
in the middle of a delivery at any depth, and also while a name is taken over. The registered
numbers increase and were given out before; a subscription that is held is active exactly if its
number is registered; as many handlers are registered as there are active subscriptions; and whoever
ends a subscription removes its own registration at most. The numbers given out on the way count up
from zero, hence none is given out twice. However often a handle or a card ends its subscription,
the bus is the one without its own registration, and nothing else changes. -/
theorem books_balance {origin : String} {steps : List Step} {m : Deck}
    (h : Amid steps (start origin) m) :
    (∀ b held, m.Standing b held →
      (b.ids.Pairwise (· < ·) ∧ b.ids.Nodup ∧ ∀ id ∈ b.ids, id < b.nextId) ∧
      (∀ s ∈ held, s.active = true ↔ b.isRegistered s.id = true) ∧
      b.count = held.countP (·.active) ∧
      ∀ s ∈ held, b.ended s = b.remove s.id) ∧
    ((∃ given, (start origin).Passage given m) ∧
      ∀ given, (start origin).Passage given m →
        given = List.range m.bus.nextId ∧ given.Nodup) ∧
    (∀ name s, find? name m.handles = some s → ∀ e ends, ∃ handles,
      (e :: ends).foldl (endHandle name) m = { m with bus := m.bus.remove s.id, handles } ∧
      ∀ other, other ≠ name → find? other handles = find? other m.handles) ∧
    (∀ name c, find? name m.cards = some c → ∀ e ends, ∃ cards,
      (e :: ends).foldl (endCard name) m =
        { m with bus := m.bus.remove c.subscription.id, cards } ∧
      ∀ other, other ≠ name → find? other cards = find? other m.cards) := by
  obtain ⟨given, hp⟩ := h.passage .refl
  have hm := hp.kept (kept_start origin)
  refine ⟨fun b held hs => ?_, ⟨⟨given, hp⟩, fun given' hp' => ?_⟩,
    fun name s hs e ends => hm.endHandles hs e ends, fun name c hc e ends => hm.endCards hc e ends⟩
  · have hb := hs.booked hm
    have hi := hb.numbered.increasing
    refine ⟨⟨hi, hi.imp fun hlt => Nat.ne_of_lt hlt, hb.numbered.below⟩, fun s hm => ?_, hb.count,
      fun s hm => hb.ended_eq hm⟩
    rw [Bus.isRegistered_iff]
    exact hb.active_iff hm
  · rw [hp'.given]
    exact ⟨rfl, List.nodup_range⟩

/-- An event is delivered to two handlers. The first publishes another one; in that delivery the
second subscribes the first anew, ends its own subscription and mounts a card: at that moment two
subscriptions are active, and two handlers registered. -/
theorem books_balance_in_nested_delivery :
    let item := Item.pin { rowId := 1 }
    let steps : List Step :=
      [.subscribe "first" [.on .any (some 1) (.publish (.playRequested item))],
        .subscribe "second" [.on (.kind .playRequested) none (.subscribe "first" []),
          .on (.kind .playRequested) none (.unsubscribe "second"),
          .on (.kind .playRequested) none (.mount "card" item [])],
        .publish (.nowPlaying item)]
    ∃ m, Amid steps (start localOrigin) m ∧
      m.subscriptions =
        [{ id := 2 }, { id := 1, active := false }, { id := 3 }] ∧
      m.bus.ids = [2, 3] ∧ m.bus.count = m.subscriptions.countP (·.active) ∧
      ∃ given, (start localOrigin).Passage given m ∧ given = [0, 1, 2, 3] := by
  intro item steps
  have h : Amid steps (start localOrigin) _ :=
    .quiet rfl rfl <| .quiet rfl rfl <| .inside rfl <| .inside rfl <| .inside rfl rfl <|
      .reached rfl (.idle rfl .nil) <| .inside rfl <| .quiet rfl rfl rfl <| .quiet rfl rfl rfl <|
        .quiet rfl rfl rfl .here
  obtain ⟨hstanding, ⟨⟨given, hp⟩, hgiven⟩, -⟩ := books_balance h
  exact ⟨_, h, rfl, rfl, (hstanding _ _ .own).2.2.1, given, hp, (hgiven given hp).1⟩

end Deck

end ListenDeck
