import ListenDeck.Cards.Message
import ListenDeck.Proofs.Playlist.Cards

/-!
# What cards keep

A card is known by its key: where a key stays in the list, the card stays, with the marks it has.

* `Shelf.arrange_keys`: the cards of a list have its keys.
* `Shelf.arrange_deleted`: a card is shown as deleted if the card of its key was.
* `Shelf.act_map`, `Shelf.settle_map`: what presses and replies leave as it is on all cards.
-/

namespace ListenDeck.Shelf

/-! ## Arranging -/

section Arrange
variable {κ : Type} [DecidableEq κ]

theorem arrangeFrom_keys (mounted : Nat) (old : List (MountedCard κ))
    (wanted : List (WantedCard κ)) :
    (arrangeFrom mounted old wanted).1.map (·.key) = wanted.map (·.key) := by
  induction wanted generalizing mounted old with
  | nil => rfl
  | cons w rest ih =>
    unfold arrangeFrom
    split
    · next c hfind =>
      have hkey : c.key = w.key := by simpa using List.find?_some hfind
      simp only [List.map_cons, ih, hkey]
    · simp only [List.map_cons, ih]

/-- **The cards of a list** have its keys, in its order. -/
theorem arrange_keys (s : Shelf κ) (wanted : List (WantedCard κ)) :
    (s.arrange wanted).cards.map (·.key) = wanted.map (·.key) :=
  arrangeFrom_keys s.mounted s.cards wanted

theorem find?_eraseP_key {old : List (MountedCard κ)} {k k' : κ} (h : k ≠ k') :
    (old.eraseP (·.key = k')).find? (·.key = k) = old.find? (·.key = k) := by
  induction old with
  | nil => rfl
  | cons c old ih =>
    by_cases hc : c.key = k'
    · rw [List.eraseP_cons_of_pos (by simpa using hc), List.find?_cons_of_neg]
      simpa [hc] using Ne.symm h
    · rw [List.eraseP_cons_of_neg (by simpa using hc), List.find?_cons, List.find?_cons, ih]

/-- **A card is taken over** from the old ones if its key is among them, and shows its item from now
on; otherwise it is new. -/
theorem arrangeFrom_taken (mounted : Nat) {old : List (MountedCard κ)}
    {wanted : List (WantedCard κ)} (hn : (wanted.map (·.key)).Nodup) :
    ∀ d ∈ (arrangeFrom mounted old wanted).1,
      (∃ c, old.find? (·.key = d.key) = some c ∧ d = { c with shown := d.shown }) ∨
        old.find? (·.key = d.key) = none ∧ d.deleted = false := by
  induction wanted generalizing mounted old with
  | nil => exact fun d hd => absurd hd List.not_mem_nil
  | cons w rest ih =>
    obtain ⟨hw, hrest⟩ := List.nodup_cons.mp hn
    -- a card further down has another key, so it does not matter what was done for this one
    have hlater : ∀ mounted (old : List (MountedCard κ)),
        ∀ d ∈ (arrangeFrom mounted old rest).1, d.key ≠ w.key := by
      intro mounted old d hd heq
      have hmem := List.mem_map_of_mem (f := (·.key)) hd
      rw [arrangeFrom_keys, heq] at hmem
      exact hw hmem
    unfold arrangeFrom
    split
    · next c hfind =>
      intro d hd
      have hkey : c.key = w.key := by simpa using List.find?_some hfind
      rcases List.mem_cons.mp hd with rfl | hd
      · exact .inl ⟨c, by rw [← hfind]; simp only [hkey], rfl⟩
      · have h := ih mounted hrest d hd
        rw [find?_eraseP_key (hlater _ _ d hd)] at h
        exact h
    · next hfind =>
      intro d hd
      rcases List.mem_cons.mp hd with rfl | hd
      · exact .inr ⟨hfind, rfl⟩
      · exact ih (mounted + 1) hrest d hd

/-- **A card is shown as deleted** if and only if the card of its key was, whatever it shows. -/
theorem arrange_deleted {s : Shelf κ} (hs : (s.cards.map (·.key)).Nodup)
    {wanted : List (WantedCard κ)} (hn : (wanted.map (·.key)).Nodup) {d : MountedCard κ}
    (hd : d ∈ (s.arrange wanted).cards) :
    d.deleted = true ↔ ∃ c ∈ s.cards, c.key = d.key ∧ c.deleted = true := by
  rcases arrangeFrom_taken s.mounted hn d hd with ⟨c, hfind, heq⟩ | ⟨hnone, hfresh⟩
  · have hkey : c.key = d.key := by simpa using List.find?_some hfind
    have hmem := List.mem_of_find?_eq_some hfind
    have hdel : d.deleted = c.deleted := by rw [heq]
    rw [hdel]
    constructor
    · exact fun h => ⟨c, hmem, hkey, h⟩
    · rintro ⟨c', hmem', hkey', h⟩
      rw [List.inj_on_of_nodup_map hs hmem hmem' (hkey.trans hkey'.symm)]
      exact h
  · rw [hfresh]
    refine iff_of_false Bool.false_ne_true ?_
    rintro ⟨c, hmem, hkey, -⟩
    exact absurd hkey (by simpa using List.find?_eq_none.mp hnone c hmem)

end Arrange

/-! ## Presses and replies -/

section Press
variable {κ : Type} (s : Shelf κ) {α : Type} {g : MountedCard κ → α}

theorem act_map (hg : ∀ c b, g { c with playing := b } = g c) (session : Session) (grace : Nat)
    (removal : Action) (serial : Nat) (m : CardMessage) :
    (s.act session grace removal serial m).1.cards.map g = s.cards.map g := by
  unfold act
  split
  · rfl
  · cases m with
    | play =>
      simp only [play]
      split
      · split
        · rfl
        · simp only [nowPlaying, List.map_map]
          exact List.map_congr_left fun c _ => hg c _
      · rfl
    | _ => rfl

theorem act_rest (session : Session) (grace : Nat) (removal : Action) (serial : Nat)
    (m : CardMessage) : (s.act session grace removal serial m).1.mounted = s.mounted ∧
      (s.act session grace removal serial m).1.removals = s.removals := by
  unfold act
  split
  · exact ⟨rfl, rfl⟩
  · cases m with
    | play =>
      simp only [play]
      split
      · split <;> exact ⟨rfl, rfl⟩
      · exact ⟨rfl, rfl⟩
    | _ => exact ⟨rfl, rfl⟩

theorem settle_map (hscore : ∀ c b, g { c with score := b } = g c)
    (hdeleted : ∀ c, g { c with deleted := true } = g c) (serial place deadline : Nat)
    (settlement : Settlement) :
    (s.settle serial place deadline settlement).1.cards.map g = s.cards.map g := by
  cases settlement with
  | scored msid score => exact s.modify_map serial fun c => hscore c score
  | armed identity => exact s.arm_map hdeleted serial identity place deadline
  | announced notice => rfl
  | failed notice => rfl

theorem settle_mounted (serial place deadline : Nat) (settlement : Settlement) :
    (s.settle serial place deadline settlement).1.mounted = s.mounted := by
  cases settlement <;> rfl

end Press

end ListenDeck.Shelf
