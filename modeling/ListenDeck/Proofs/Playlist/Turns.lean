import ListenDeck.Proofs.Playlist.Cards

/-!
# The turns of a playlist page

What a press of a button, an answer of the server and the clock do to a playlist page, said once.

* `PlaylistPage.load_cases`: Open asks for a playlist and undoes the lock, or does nothing.
* `PlaylistPage.remove_cases`: the removal button of a card asks for the removal of the track at its
  place and locks the page, or does nothing.
* `PlaylistPage.changed_ok`, `PlaylistPage.changed_error`: the answer to a removal.
* `PlaylistPage.elapse_of_nil`, `PlaylistPage.elapse_of_singleton`: the grace of a removal.
-/

namespace ListenDeck.PlaylistPage

section Press
variable (p : PlaylistPage)

/-- **What Open does**: nothing, or it asks for a playlist and undoes the lock. -/
theorem load_cases (text : String) : p.load text = (p, []) ∨
    (p.loading = false ∧ p.load text =
      ({ p with loading := true, locked := false }, [.ask (.playlist (Text.trim text))])) := by
  unfold load
  by_cases h : Text.trim text = "" ∨ p.loading = true
  · left
    simp only [Bool.or_eq_true, decide_eq_true_eq, h, if_true]
  · right
    simp only [Bool.or_eq_true, decide_eq_true_eq, h, if_false]
    rw [not_or, Bool.not_eq_true] at h
    exact ⟨h.2, trivial⟩

/-- The playlist of a page, or an empty one. -/
def shownList : Playlist := p.playlist.getD { mbid := "" }

theorem shownList_of_some {p : PlaylistPage} {l : Playlist} (h : p.playlist = some l) :
    p.shownList = l := by
  unfold shownList
  rw [h]
  rfl

theorem removal_eq (serial : Nat) : p.removal serial =
    .removeTrack p.shownList.mbid p.shownList.creator (p.placeOf serial) := by
  unfold removal shownList
  cases p.playlist <;> rfl

theorem plan_removeTrack (session : Session) (item : Item) (mbid owner : String) (place : Nat) :
    session.plan item (.removeTrack mbid owner place) = none ∨
      ∃ token, session.plan item (.removeTrack mbid owner place) =
        some (.removeTrack token mbid place) ∧ session.canEditPlaylist owner = true := by
  simp only [Session.plan]
  by_cases h : (item.isTrack && session.canEditPlaylist owner) = true
  · rw [if_pos h]
    rw [Bool.and_eq_true] at h
    cases session.token with
    | none => exact Or.inl rfl
    | some token => exact Or.inr ⟨token, rfl, h.2⟩
  · rw [if_neg h]
    exact Or.inl rfl

/-- **What the removal button of a card does**: nothing, or it asks for the removal of the track at
the card's place and locks the page. -/
theorem remove_cases (session : Session) (settings : Settings) (serial : Nat) :
    p.remove session settings serial = (p, []) ∨
      ∃ c token, p.locked = false ∧ p.shelf.find? serial = some c ∧
        session.canEditPlaylist p.shownList.creator = true ∧
        p.remove session settings serial =
          ({ p with locked := true }, [.ask (.change serial c.shown
            (.removeTrack token p.shownList.mbid (p.placeOf serial))
            settings.removalGraceMs.toNat)]) := by
  unfold remove
  by_cases hl : p.locked = true
  · exact Or.inl (if_pos hl)
  · rw [if_neg hl]
    rw [Bool.not_eq_true] at hl
    have hsame : { p with locked := false } = p := by rw [← hl]
    unfold Shelf.act
    cases hc : p.shelf.find? serial with
    | none => left; simp [hsame]
    | some c =>
      simp only [MountedCard.plan?, MountedCard.action?, Option.bind_some, removal_eq]
      rcases plan_removeTrack session c.shown p.shownList.mbid p.shownList.creator
        (p.placeOf serial) with h | ⟨token, h, he⟩
      · left; simp [h, hsame]
      · right; exact ⟨c, token, hl, rfl, he, by simp [h]⟩

theorem remove_of_allowed {session : Session} (settings : Settings) {serial : Nat}
    {c : MountedCard String} {t : PlaylistTrack} (hlock : p.locked = false)
    (hc : p.shelf.find? serial = some c) (ht : c.shown = .track t)
    (he : session.canEditPlaylist p.shownList.creator = true) :
    ∃ token, p.remove session settings serial =
      ({ p with locked := true }, [.ask (.change serial (.track t)
        (.removeTrack token p.shownList.mbid (p.placeOf serial))
        settings.removalGraceMs.toNat)]) := by
  obtain ⟨token, htoken⟩ : ∃ token, session.token = some token := by
    unfold Session.canEditPlaylist at he
    rw [Bool.and_eq_true] at he
    exact Option.isSome_iff_exists.mp he.1
  refine ⟨token, ?_⟩
  have hplan : session.plan (.track t) (p.removal serial) =
      some (.removeTrack token p.shownList.mbid (p.placeOf serial)) := by
    simp only [removal_eq, Session.plan, he, Item.isTrack, Bool.and_self, if_true, htoken,
      Option.map_some]
  unfold remove
  rw [if_neg (by simp [hlock])]
  simp [Shelf.act, hc, ht, MountedCard.plan?, MountedCard.action?, hplan]

end Press

/-! ## Answers -/

section Answer
variable (p : PlaylistPage) (now card : Nat) (item : Item) (token mbid : String) (place grace : Nat)

theorem changed_ok (h : p.shelf.isMounted card = true) :
    p.changed now card item (.removeTrack token mbid place) grace (.ok statusOk) =
      ({ p with shelf := p.shelf.arm card item.identity place (now + grace) }, []) := by
  unfold changed Shelf.receive?
  rw [if_pos h]
  rfl

theorem changed_error (h : p.shelf.isMounted card = true) (e : ServerError) :
    p.changed now card item (.removeTrack token mbid place) grace (.error e) =
      ({ p with locked := false },
        [.notify ((Mutation.removeTrack token mbid place).failureNotice e)]) := by
  unfold changed Shelf.receive?
  rw [if_pos h]
  rfl

end Answer

/-! ## The grace -/

section Grace
variable {p : PlaylistPage}

theorem elapse_of_nil (h : p.shelf.removals = []) (now : Nat) : p.elapse now = p := by
  obtain ⟨field, playlist, loading, locked, cards, mounted, removals⟩ := p
  obtain rfl : removals = [] := h
  simp [elapse, Shelf.due]

/-- **When the grace of a removal is over**, its track leaves the page, if it is still there. -/
theorem elapse_of_singleton {r : CardRemoval} (h : p.shelf.removals = [r])
    (hm : p.shelf.isMounted r.card = true) (now : Nat) :
    (now < r.deadline ∧ p.elapse now = p) ∨
      (r.deadline ≤ now ∧ p.elapse now =
        ({ p with shelf := { p.shelf with removals := [] } } : PlaylistPage).without r) := by
  obtain ⟨field, playlist, loading, locked, cards, mounted, removals⟩ := p
  obtain rfl : removals = [r] := h
  rcases Nat.lt_or_ge now r.deadline with hlt | hge
  · refine Or.inl ⟨hlt, ?_⟩
    have hnot : ¬ r.deadline ≤ now := by omega
    simp [elapse, Shelf.due, hlt, hnot]
  · refine Or.inr ⟨hge, ?_⟩
    have hnot : ¬ now < r.deadline := by omega
    have hm' : ({ cards, mounted, removals := [] } : Shelf String).isMounted r.card = true := hm
    simp [elapse, Shelf.due, hge, hnot, hm']

end Grace

end ListenDeck.PlaylistPage
