import ListenDeck.Proofs.Playlist.Hits

/-!
# When a load and a removal come together

Removals hit the track of their card in every run in which loads and removals stay apart. One press
that brings them together is enough for a removal that misses: Open undoes the lock of the removal
under way, and a playlist on its way brings back the track that a removal has taken.

* `Curation.Misses`: the server is about to take a track that is not the one of the card.
* `Curation.Counted`: every request has a number of its own.
* `Curation.Exposed`: the page offers places that the server has moved or will move.
* `Curation.removals_hit`: what stays apart hits; what comes together can be led to a miss.
-/

namespace ListenDeck

namespace Playlist

/-- **Behind a place two tracks in a row differ**, so that it shows if the tracks are moved up. -/
def Varied (l : Playlist) (place : Nat) : Prop :=
  ∃ k t t', place ≤ k ∧ l.tracks[k]? = some t ∧ l.tracks[k + 1]? = some t' ∧ t.id ≠ t'.id

/-- Without the track at the place, another track stands where one of the two stood. -/
theorem hasAt_erase {l : Playlist} {place k : Nat} {t t' : PlaylistTrack} (hle : place ≤ k)
    (ht' : l.tracks[k + 1]? = some t') (hne : t.id ≠ t'.id) :
    k < (l.erase place).tracks.length ∧
      (l.erase place).hasAt k (Item.track t).identity = false := by
  have hk : (l.erase place).tracks[k]? = some t' := by
    unfold erase
    rw [List.getElem?_eraseIdx_of_ge hle]
    exact ht'
  refine ⟨(List.getElem?_eq_some_iff.mp hk).1, ?_⟩
  unfold hasAt
  rw [hk]
  simp [Item.identity, Ne.symm hne]

end Playlist

namespace Curation

/-- **The server is about to take the wrong track**: there is one at the place of a removal that it
has not answered, and it is not the recording of the card. -/
def Misses (s : Curation) : Prop :=
  ∃ o ∈ s.orders, o.answer = none ∧
    (∃ token mbid place, o.mutation = .removeTrack token mbid place ∧
      place < (s.lists mbid).tracks.length) ∧ ¬ o.Hits s.lists

/-! ## Numbers -/

/-- **The requests have numbers below the next one.** -/
structure Counted (s : Curation) : Prop where
  fetches : ∀ f ∈ s.fetches, f.number < s.requests
  orders : ∀ o ∈ s.orders, o.number < s.requests

section Counted
variable {s : Curation}

theorem ask_counted (h : s.Counted) (effect : PageEffect) : (s.ask effect).Counted := by
  unfold ask
  split
  · refine ⟨fun f hf => ?_, fun o ho => Nat.lt_succ_of_lt (h.orders o ho)⟩
    rcases List.mem_append.mp hf with hf | hf
    · exact Nat.lt_succ_of_lt (h.fetches f hf)
    · obtain rfl := List.mem_singleton.mp hf
      exact Nat.lt_succ_self _
  · refine ⟨fun f hf => Nat.lt_succ_of_lt (h.fetches f hf), fun o ho => ?_⟩
    rcases List.mem_append.mp ho with ho | ho
    · exact Nat.lt_succ_of_lt (h.orders o ho)
    · obtain rfl := List.mem_singleton.mp ho
      exact Nat.lt_succ_self _
  · exact h

theorem turn_counted (h : s.Counted) (t : PageTurn PlaylistPage) : (s.turn t).Counted := by
  obtain ⟨page, effects⟩ := t
  have hpage : ({ s with page } : Curation).Counted := ⟨h.fetches, h.orders⟩
  show (effects.foldl ask { s with page }).Counted
  generalize ({ s with page } : Curation) = s' at hpage
  induction effects generalizing s' with
  | nil => exact hpage
  | cons effect rest ih => exact ih _ (ask_counted hpage effect)

theorem give_counted (h : s.Counted) (number : Nat) (answer : Fetch → Except ServerError Playlist) :
    (s.give number answer).Counted := by
  refine ⟨fun f hf => ?_, h.orders⟩
  obtain ⟨g, hg, rfl⟩ := List.mem_map.mp hf
  split_ifs
  · exact h.fetches g hg
  · exact h.fetches g hg

theorem settle_counted (h : s.Counted) (number : Nat) (answer : Except ServerError Nat) :
    (s.settle number answer).Counted := by
  refine ⟨h.fetches, fun o ho => ?_⟩
  obtain ⟨o', ho', rfl⟩ := List.mem_map.mp ho
  split_ifs
  · exact h.orders o' ho'
  · exact h.orders o' ho'

theorem execute_counted (h : s.Counted) (number : Nat) : (s.execute number).Counted := by
  unfold execute
  split
  · split_ifs
    · exact ⟨(settle_counted h number (.ok statusOk)).fetches,
        (settle_counted h number (.ok statusOk)).orders⟩
    · exact h
  · exact h

theorem deliver_counted (h : s.Counted) (number : Nat) :
    ((s.deliverList number).deliverChange number).Counted := by
  have hlist : (s.deliverList number).Counted := by
    rcases s.deliverList_cases number with hsame | ⟨f, -, answer, -, -, hdeliver⟩
    · rw [hsame]; exact h
    · rw [hdeliver]
      refine turn_counted (s := { s with fetches := s.fetches.filter (·.number ≠ number) }) ?_ _
      exact ⟨fun f hf => h.fetches f (List.mem_of_mem_filter hf), h.orders⟩
  generalize s.deliverList number = s' at hlist
  rcases s'.deliverChange_cases number with hsame | ⟨o, -, answer, -, -, hdeliver⟩
  · rw [hsame]; exact hlist
  · rw [hdeliver]
    refine turn_counted (s := { s' with orders := s'.orders.filter (·.number ≠ number) }) ?_ _
    exact ⟨hlist.fetches, fun o ho => hlist.orders o (List.mem_of_mem_filter ho)⟩

theorem step_counted (h : s.Counted) (e : Event) : (s.step e).Counted := by
  cases e with
  | press session settings button => exact turn_counted h _
  | give number => exact give_counted h number _
  | execute number => exact execute_counted h number
  | refuse number e => exact settle_counted (give_counted h number _) number _
  | deliver number => exact deliver_counted h number
  | pass ms => exact ⟨h.fetches, h.orders⟩

theorem run_counted (h : s.Counted) (es : List Event) : (s.run es).Counted := by
  induction es generalizing s with
  | nil => exact h
  | cons e es ih => exact ih (step_counted h e)

theorem start_counted (settings : Settings) (lists : String → Playlist) :
    (start settings lists).Counted := by
  refine turn_counted ⟨fun f hf => ?_, fun o ho => ?_⟩ _
  · exact (List.not_mem_nil hf).elim
  · exact (List.not_mem_nil ho).elim

end Counted

/-! ## From an exposed page to a miss -/

/-- The page offers the places of a playlist: it is not locked, and its cards show the tracks to
somebody who may remove them. -/
structure Offers (s : Curation) (l : Playlist) : Prop where
  unlocked : s.page.locked = false
  playlist : s.page.playlist = some l
  inOrder : s.page.InOrder
  numbered : s.page.shelf.Numbered
  owned : ∃ session : Session, session.canEditPlaylist l.creator = true

/-- **The page offers places that are out of date**, or will be as soon as the server carries out
what it was asked for: the tracks behind the place have moved up. -/
inductive Exposed (s : Curation) (l : Playlist) (place : Nat) : Prop where
  | moved (hp : s.Offers l) (hv : s.lists l.mbid = l.erase place)
  | moving (o : Order) (token : String) (hp : s.Offers l) (ho : s.orders = [o])
      (hn : o.number < s.requests) (hm : o.mutation = .removeTrack token l.mbid place)
      (ha : o.answer = none) (hlt : place < l.tracks.length) (hv : s.lists l.mbid = l)

section Exposed
variable {s : Curation} {l : Playlist} {place : Nat}

theorem press_remove (h : s.Offers l) (settings : Settings) {k : Nat} {t : PlaylistTrack}
    (ht : l.tracks[k]? = some t) :
    ∃ session serial token, ∃ o : Order, o.number = s.requests ∧ o.item = .track t ∧
      o.mutation = .removeTrack token l.mbid k ∧ o.answer = none ∧
      s.step (.press session settings (.remove serial)) =
        { s with
          page := { s.page with locked := true }
          orders := s.orders ++ [o]
          requests := s.requests + 1 } := by
  obtain ⟨session, he⟩ := h.owned
  have hlist : s.page.shownList = l := PlaylistPage.shownList_of_some h.playlist
  have htrack : s.page.tracks[k]? = some t := by
    rw [PlaylistPage.tracks_of_some h.playlist]
    exact ht
  obtain ⟨serial, c, hc, hplace, hshown⟩ := PlaylistPage.exists_card h.inOrder h.numbered htrack
  obtain ⟨token, hremove⟩ := s.page.remove_of_allowed settings h.unlocked hc hshown
    (by rw [hlist]; exact he)
  refine ⟨session, serial, token, ⟨s.requests, serial, .track t, .removeTrack token l.mbid k,
    settings.removalGraceMs.toNat, none⟩, rfl, rfl, rfl, rfl, ?_⟩
  show s.turn (s.page.remove session settings serial) = _
  rw [hremove, hlist, hplace]
  rfl

theorem misses_of_moved {o : Order} {token : String} {k : Nat} {t t' : PlaylistTrack}
    (ho : o ∈ s.orders) (ha : o.answer = none) (hm : o.mutation = .removeTrack token l.mbid k)
    (hitem : o.item = .track t) (hv : s.lists l.mbid = l.erase place) (hle : place ≤ k)
    (ht' : l.tracks[k + 1]? = some t') (hne : t.id ≠ t'.id) : s.Misses := by
  obtain ⟨hlt, hat⟩ := Playlist.hasAt_erase hle ht' hne
  refine ⟨o, ho, ha, ⟨token, l.mbid, k, hm, by rw [hv]; exact hlt⟩, ?_⟩
  rintro ⟨token', mbid, place', hm', hhit⟩
  rw [hm] at hm'
  obtain ⟨-, rfl, rfl⟩ := Mutation.removeTrack.inj hm'
  rw [hv, hitem, hat] at hhit
  cases hhit

/-- **An exposed page is one press away from a miss**, or a press and the server's next move. -/
theorem exposed_misses (h : s.Exposed l place) (hvaried : l.Varied place) :
    ∃ es, (s.run es).Misses := by
  obtain ⟨k, t, t', hle, ht, ht', hne⟩ := hvaried
  cases h with
  | moved hp hv =>
    obtain ⟨session, serial, token, o, -, hitem, hm, ha, hpress⟩ := press_remove hp {} ht
    refine ⟨[.press session {} (.remove serial)], ?_⟩
    show (s.step (.press session {} (.remove serial))).Misses
    rw [hpress]
    exact misses_of_moved (List.mem_append_right _ (List.mem_singleton_self _)) ha hm hitem hv hle
      ht' hne
  | moving o₀ token₀ hp ho hn hm₀ ha₀ hlt hv =>
    obtain ⟨session, serial, token, o, hnumber, hitem, hm, ha, hpress⟩ := press_remove hp {} ht
    refine ⟨[.press session {} (.remove serial), .execute o₀.number], ?_⟩
    show ((s.step (.press session {} (.remove serial))).execute o₀.number).Misses
    rw [hpress, ho, execute_eq (o := o₀) (by simp [ha₀]) hm₀ (by rw [hv]; exact hlt)]
    have hother : ¬ (o.number = o₀.number ∧ o.answer = none) := by omega
    refine misses_of_moved (o := o) ?_ ha hm hitem ?_ hle ht' hne
    · exact List.mem_map.mpr ⟨o, List.mem_append_right _ (List.mem_singleton_self _), if_neg hother⟩
    · show removeFrom s.lists l.mbid place l.mbid = _
      rw [removeFrom_self, hv]

end Exposed

/-! ## Answers to removals -/

section Answer
variable {s : Curation} {o : Order} {token mbid : String} {place : Nat}

theorem deliver_error {e : ServerError} (hf : ∀ f ∈ s.fetches, f.number ≠ o.number)
    (hfind : s.orders.find? (·.number = o.number) = some o)
    (hm : o.mutation = .removeTrack token mbid place) (ha : o.answer = some (.error e))
    (hmounted : s.page.shelf.isMounted o.card = true) :
    s.step (.deliver o.number) =
      { s with
        page := { s.page with locked := false }
        orders := s.orders.filter (·.number ≠ o.number) } := by
  show (s.deliverList o.number).deliverChange o.number = _
  rw [deliverList_of_ne hf, deliverChange_eq hfind ha, hm,
    PlaylistPage.changed_error _ _ _ _ _ _ _ _ hmounted]
  rfl

theorem deliver_ok (hf : ∀ f ∈ s.fetches, f.number ≠ o.number)
    (hfind : s.orders.find? (·.number = o.number) = some o)
    (hm : o.mutation = .removeTrack token mbid place) (ha : o.answer = some (.ok statusOk))
    (hmounted : s.page.shelf.isMounted o.card = true) :
    s.step (.deliver o.number) =
      { s with
        page := { s.page with
          shelf := s.page.shelf.arm o.card o.item.identity place (s.now + o.grace) }
        orders := s.orders.filter (·.number ≠ o.number) } := by
  show (s.deliverList o.number).deliverChange o.number = _
  rw [deliverList_of_ne hf, deliverChange_eq hfind ha, hm,
    PlaylistPage.changed_ok _ _ _ _ _ _ _ _ hmounted]
  rfl

end Answer

/-! ## Open while a removal is under way -/

/-- **What an event is about**: Open, the removal under way of the track at a place of the playlist
that is shown; a removal, the track at a place of the playlist that is on its way. -/
def Concerns (s : Curation) (l : Playlist) (place : Nat) : Event → Prop
  | .press _ _ .open =>
    (∃ o ∈ s.orders, ∃ token, o.mutation = .removeTrack token l.mbid place) ∨
      ∃ r ∈ s.page.shelf.removals, r.place = place
  | .press _ _ (.remove serial) => s.page.placeOf serial = place ∧
      ∃ f ∈ s.fetches, f.mbid = l.mbid ∧ ∀ e, f.answer ≠ some (.error e)
  | _ => False

section Open
variable {s : Curation} {l : Playlist} {place : Nat}

/-- A removal is asked for again before its refusal comes: then it is under way while the page is
not locked. -/
theorem refused_exposed (h : s.Offers l) {o : Order} {token : String} {e : ServerError}
    {t : PlaylistTrack} (hf : ∀ f ∈ s.fetches, f.number ≠ o.number) (ho : s.orders = [o])
    (hn : o.number < s.requests) (hm : o.mutation = .removeTrack token l.mbid place)
    (ha : o.answer = some (.error e)) (hmounted : s.page.shelf.isMounted o.card = true)
    (ht : l.tracks[place]? = some t) (hv : s.lists l.mbid = l) :
    ∃ es, (s.run es).Exposed l place := by
  obtain ⟨session, serial, token', o', hnumber, -, hm', ha', hpress⟩ := press_remove h {} ht
  refine ⟨[.press session {} (.remove serial), .deliver o.number], ?_⟩
  show ((s.step (.press session {} (.remove serial))).step (.deliver o.number)).Exposed l place
  have hne : o'.number ≠ o.number := by omega
  rw [hpress, deliver_error (by exact hf) (by simp [ho]) hm ha (by exact hmounted)]
  refine .moving o' token' ⟨rfl, h.playlist, h.inOrder, h.numbered, h.owned⟩ ?_ ?_ hm' ha'
    (List.getElem?_eq_some_iff.mp ht).1 hv
  · show (s.orders ++ [o']).filter (·.number ≠ o.number) = [o']
    simp [ho, hne]
  · show o'.number < s.requests + 1
    omega

theorem open_of_overlaps {session : Session} {settings : Settings}
    (h : s.Overlaps (.press session settings .open)) : s.Removing ∧
      ∃ mbid, s.step (.press session settings .open) =
        { s with
          page := { s.page with loading := true, locked := false }
          fetches := s.fetches ++ [{ number := s.requests, mbid }]
          requests := s.requests + 1 } := by
  replace h : (s.page.load s.page.field).2.any asksList = true ∧ s.Removing ∨
    (s.page.load s.page.field).2.any asksChange = true ∧ s.Loading := h
  show _ ∧ ∃ mbid, s.turn (s.page.load s.page.field) = _
  rcases PlaylistPage.load_cases s.page s.page.field with hload | ⟨-, hload⟩
  · rw [hload] at h
    simp at h
  · rw [hload] at h ⊢
    exact ⟨by simpa [asksList, asksChange] using h, _, rfl⟩

theorem place_of_concerns {session : Session} {settings : Settings} {o : Order} {token : String}
    {place' : Nat} (ho : s.orders = [o]) (hr : s.page.shelf.removals = [])
    (hm : o.mutation = .removeTrack token l.mbid place')
    (habout : s.Concerns l place (.press session settings .open)) : place' = place := by
  rcases habout with ⟨o', ho', token', hm'⟩ | ⟨r, hmem, -⟩
  · rw [ho, List.mem_singleton] at ho'
    rw [ho', hm] at hm'
    exact (Mutation.removeTrack.inj hm').2.2
  · rw [hr] at hmem
    exact (List.not_mem_nil hmem).elim

/-- **Open exposes the removal under way.** -/
theorem open_exposed (h : s.Sound) (hc : s.Counted) {session : Session} {settings : Settings}
    (hover : s.Overlaps (.press session settings .open)) (hl : s.page.playlist = some l)
    (habout : s.Concerns l place (.press session settings .open)) :
    ∃ es, ((s.step (.press session settings .open)).run es).Exposed l place := by
  obtain ⟨hr, mbid, hopen⟩ := open_of_overlaps hover
  rw [hopen]
  have hoffers : (∃ session : Session, session.canEditPlaylist l.creator = true) →
      ({ s with
        page := { s.page with loading := true, locked := false }
        fetches := s.fetches ++ [{ number := s.requests, mbid }]
        requests := s.requests + 1 } : Curation).Offers l := fun howned =>
    ⟨rfl, hl, h.inOrder, h.numbered, howned⟩
  cases h.stage with
  | idle ho hrem _ =>
    rcases hr with hr | hr
    · exact absurd ho hr
    · exact absurd hrem hr
  | ordered o l' token place' ho hrem hp hm ha hv =>
    obtain rfl : l = l' := Option.some.inj (hl.symm.trans hp.playlist)
    obtain rfl : place' = place := place_of_concerns ho hrem hm habout
    have hlt : o.number < s.requests := hc.orders o (by rw [ho]; exact List.mem_singleton_self _)
    rcases hanswer : o.answer with _ | e | status
    · exact ⟨[], .moving o token (hoffers hp.owned) ho (Nat.lt_succ_of_lt hlt) hm hanswer
        (Playlist.lt_of_hasAt hp.hasAt) hv⟩
    · refine refused_exposed (hoffers hp.owned) (fun f hf => ?_) ho (Nat.lt_succ_of_lt hlt) hm
        hanswer hp.mounted (List.getElem?_eq_getElem (Playlist.lt_of_hasAt hp.hasAt)) hv
      replace hf : f ∈ s.fetches ++ [{ number := s.requests, mbid }] := hf
      rw [hp.fetches, List.nil_append, List.mem_singleton] at hf
      rw [hf]
      exact (Nat.ne_of_lt hlt).symm
    · exact absurd hanswer (ha status)
  | executed o l' token place' ho hrem hp hm ha hv =>
    obtain rfl : l = l' := Option.some.inj (hl.symm.trans hp.playlist)
    obtain rfl : place' = place := place_of_concerns ho hrem hm habout
    exact ⟨[], .moved (hoffers hp.owned) hv⟩
  | armed r l' ho hrem hp hv =>
    obtain rfl : l = l' := Option.some.inj (hl.symm.trans hp.playlist)
    obtain rfl : r.place = place := by
      rcases habout with ⟨o', ho', -⟩ | ⟨r', hr', hplace⟩
      · rw [ho] at ho'
        exact (List.not_mem_nil ho').elim
      · rw [hrem, List.mem_singleton] at hr'
        rw [← hr']
        exact hplace
    exact ⟨[], .moved (hoffers hp.owned) hv⟩

end Open

/-! ## A removal while a playlist is on its way -/

/-- A copy of a playlist is on its way. -/
structure Late (s : Curation) (l : Playlist) (f : Fetch) : Prop where
  numbered : s.page.shelf.Numbered
  owned : ∃ session : Session, session.canEditPlaylist l.creator = true
  fetches : s.fetches = [f]
  copy : f.answer = some (.ok l)

section Late
variable {s : Curation} {l : Playlist} {place : Nat} {f : Fetch}

/-- The copy comes when nothing is under way any more: it brings the track back. -/
theorem Late.exposed (h : s.Late l f) (ho : s.orders = []) (hlock : s.page.locked = false)
    (hv : s.lists l.mbid = l.erase place) : (s.step (.deliver f.number)).Exposed l place := by
  have hcame : s.step (.deliver f.number) =
      { s with
        page := { s.page with playlist := some l, loading := false }.arranged
        fetches := s.fetches.filter (·.number ≠ f.number) } := by
    show (s.deliverList f.number).deliverChange f.number = _
    rw [deliverList_eq (f := f) (by simp [h.fetches]) h.copy]
    exact deliverChange_of_ne fun o hmem => by
      replace hmem : o ∈ s.orders := hmem
      rw [ho] at hmem
      exact (List.not_mem_nil hmem).elim
  rw [hcame]
  exact .moved ⟨hlock, rfl, PlaylistPage.arranged_inOrder _, Shelf.arrange_numbered h.numbered _,
    h.owned⟩ hv

theorem Late.armed_exposed (h : s.Late l f) {r : CardRemoval} (ho : s.orders = [])
    (hr : s.page.shelf.removals = [r]) (hm : s.page.shelf.isMounted r.card = true)
    (hv : s.lists l.mbid = l.erase r.place) {ms : Nat} (hms : r.deadline ≤ s.now + ms) :
    (s.run [.pass ms, .deliver f.number]).Exposed l r.place := by
  rcases PlaylistPage.elapse_of_singleton hr hm (s.now + ms) with ⟨hlt, -⟩ | ⟨-, he⟩
  · omega
  · have hpass : s.step (.pass ms) = { s with
        now := s.now + ms
        page := ({ s.page with
          shelf := { s.page.shelf with removals := [] } } : PlaylistPage).without r } := by
      rw [← he]
      rfl
    show ((s.step (.pass ms)).step (.deliver f.number)).Exposed l r.place
    rw [hpass]
    refine Late.exposed ⟨?_, h.owned, h.fetches, h.copy⟩ ho rfl hv
    exact Shelf.arrange_numbered
      (s := { s.page.shelf with removals := [] }) ⟨h.numbered.nodup, h.numbered.lt⟩ _

section Order
variable {o : Order} {token : String} (hm : o.mutation = .removeTrack token l.mbid place)
  (hr : s.page.shelf.removals = []) (hmounted : s.page.shelf.isMounted o.card = true)
  (hne : f.number ≠ o.number)
include hm hr hmounted hne

theorem Late.executed_exposed (h : s.Late l f) (ho : s.orders = [o])
    (ha : o.answer = some (.ok statusOk)) (hv : s.lists l.mbid = l.erase place) :
    (s.run [.deliver o.number, .pass o.grace, .deliver f.number]).Exposed l place := by
  show ((s.step (.deliver o.number)).run [.pass o.grace, .deliver f.number]).Exposed l place
  rw [deliver_ok (by simpa [h.fetches] using hne) (by simp [ho]) hm ha hmounted]
  refine Late.armed_exposed (r := ⟨o.card, o.item.identity, place, s.now + o.grace⟩)
    ?_ ?_ ?_ ?_ ?_ ?_
  · exact ⟨Shelf.arm_numbered h.numbered _ _ _ _, h.owned, h.fetches, h.copy⟩
  · show s.orders.filter (·.number ≠ o.number) = []
    simp [ho]
  · show s.page.shelf.removals ++ _ = _
    rw [hr]
    rfl
  · exact s.page.shelf.arm_isMounted hmounted _ _ _
  · exact hv
  · exact Nat.le_refl _

/-- **A copy that was made before a removal comes after it.** -/
theorem Late.ordered_exposed (h : s.Late l f) (ho : s.orders = [o]) (ha : o.answer = none)
    (hlt : place < l.tracks.length) (hv : s.lists l.mbid = l) :
    (s.run [.execute o.number, .deliver o.number, .pass o.grace, .deliver f.number]).Exposed
      l place := by
  show ((s.execute o.number).run [.deliver o.number, .pass o.grace, .deliver f.number]).Exposed
    l place
  rw [execute_eq (o := o) (by simp [ho, ha]) hm (by rw [hv]; exact hlt)]
  refine Late.executed_exposed (o := { o with answer := some (.ok statusOk) }) hm hr hmounted hne
    ⟨h.numbered, h.owned, h.fetches, h.copy⟩ (by simp [settle, ho, ha]) rfl ?_
  show removeFrom s.lists l.mbid place l.mbid = _
  rw [removeFrom_self, hv]

end Order

theorem late_of_give (hf : s.fetches = [f]) (hn : s.page.shelf.Numbered)
    (howned : ∃ session : Session, session.canEditPlaylist l.creator = true)
    (hv : s.lists f.mbid = l) (hgiven : ∀ l', f.answer = some (.ok l') → l' = l)
    (hnot : ∀ e, f.answer ≠ some (.error e)) :
    ∃ f', f'.number = f.number ∧ (s.step (.give f.number)).Late l f' := by
  have hgive : (s.step (.give f.number)).fetches =
      [if f.number = f.number ∧ f.answer = none then
        { f with answer := some (.ok (s.lists f.mbid)) } else f] := by
    show (s.give f.number _).fetches = _
    simp only [give, hf, List.map_cons, List.map_nil]
  rcases hanswer : f.answer with _ | e | l'
  · rw [if_pos ⟨rfl, hanswer⟩, hv] at hgive
    exact ⟨{ f with answer := some (.ok l) }, rfl, hn, howned, hgive, rfl⟩
  · exact absurd hanswer (hnot e)
  · rw [if_neg (by simp [hanswer])] at hgive
    exact ⟨f, rfl, hn, howned, hgive, by rw [hanswer, hgiven l' hanswer]⟩

theorem remove_of_overlaps {session : Session} {settings : Settings} {serial : Nat}
    (h : s.Overlaps (.press session settings (.remove serial))) : s.Loading ∧
      ∃ c token, s.page.locked = false ∧ s.page.shelf.find? serial = some c ∧
        session.canEditPlaylist s.page.shownList.creator = true ∧
        s.step (.press session settings (.remove serial)) =
          { s with
            page := { s.page with locked := true }
            orders := s.orders ++ [⟨s.requests, serial, c.shown,
              .removeTrack token s.page.shownList.mbid (s.page.placeOf serial),
              settings.removalGraceMs.toNat, none⟩]
            requests := s.requests + 1 } := by
  replace h : (s.page.remove session settings serial).2.any asksList = true ∧ s.Removing ∨
    (s.page.remove session settings serial).2.any asksChange = true ∧ s.Loading := h
  show _ ∧ ∃ c token, _ ∧ _ ∧ _ ∧ s.turn (s.page.remove session settings serial) = _
  rcases s.page.remove_cases session settings serial with
    hremove | ⟨c, token, hlock, hc, he, hremove⟩
  · rw [hremove] at h
    simp at h
  · rw [hremove] at h ⊢
    exact ⟨by simpa [asksList, asksChange] using h, c, token, hlock, hc, he, rfl⟩

/-- **A removal exposes the playlist on its way.** -/
theorem remove_exposed (h : s.Sound) (hcount : s.Counted) {session : Session} {settings : Settings}
    {serial : Nat} (hover : s.Overlaps (.press session settings (.remove serial)))
    (hl : s.page.playlist = some l)
    (habout : s.Concerns l place (.press session settings (.remove serial))) :
    ∃ es, ((s.step (.press session settings (.remove serial))).run es).Exposed l place := by
  obtain ⟨hload, c, token, hlock, hc, he, hpress⟩ := remove_of_overlaps hover
  obtain ⟨rfl, f, hf, hmbid, hnot⟩ := habout
  obtain ⟨ho, hr, hv⟩ := agrees_of_not_removing h fun hr => by
    rw [(locked_of_removing h hr).1] at hlock
    cases hlock
  have hlist : s.page.shownList = l := PlaylistPage.shownList_of_some hl
  have hone : s.fetches = [f] := by
    rcases h.loading with hnil | ⟨f', hone, -⟩
    · exact absurd hnil hload
    · rw [hone, List.mem_singleton] at hf
      rw [hone, hf]
  obtain ⟨t, ht, -⟩ := PlaylistPage.track_of_find? h.inOrder hc
  rw [PlaylistPage.tracks_of_some hl] at ht
  have hlt : s.page.placeOf serial < l.tracks.length := (List.getElem?_eq_some_iff.mp ht).1
  rw [hlist] at he hpress
  rw [hpress, ho]
  obtain ⟨f', hnumber, hlate⟩ := late_of_give (l := l) (f := f) (s := { s with
      page := { s.page with locked := true }
      orders := [] ++ [⟨s.requests, serial, c.shown,
        .removeTrack token l.mbid (s.page.placeOf serial), settings.removalGraceMs.toNat, none⟩]
      requests := s.requests + 1 })
    hone h.numbered ⟨session, he⟩ (by rw [hmbid]; exact hv l hl)
    (fun l' hl' => (h.given f hf l' hl').trans (by rw [hmbid]; exact hv l hl)) hnot
  refine ⟨[.give f.number, .execute s.requests, .deliver s.requests,
    .pass settings.removalGraceMs.toNat, .deliver f'.number], ?_⟩
  refine Late.ordered_exposed (o := ⟨s.requests, serial, c.shown, .removeTrack token l.mbid
    (s.page.placeOf serial), settings.removalGraceMs.toNat, none⟩) rfl hr
    (Shelf.isMounted_of_find? _ hc) ?_ hlate rfl rfl hlt (hv l hl)
  rw [hnumber]
  exact Nat.ne_of_lt (hcount.fetches f hf)

end Late

/-! ## What stays apart and what does not -/

/-- **Removals hit the track of their card as long as loads and removals stay apart**: wherever
such a run has led, every removal that the server has not answered names the place of the card's
recording in the server's copy. **The first press that brings a load and a removal of the same
playlist together can be led to a miss**, if the tracks behind the place are not all the same
recording. -/
theorem removals_hit (settings : Settings) {lists : String → Playlist}
    (hids : ∀ mbid, (lists mbid).mbid = mbid) {es : List Event}
    (hapart : (start settings lists).Apart es) :
    (∀ o ∈ ((start settings lists).run es).orders, o.answer = none →
      o.Hits ((start settings lists).run es).lists) ∧
    ∀ e l place, ((start settings lists).run es).Overlaps e →
      ((start settings lists).run es).page.playlist = some l →
      ((start settings lists).run es).Concerns l place e → l.Varied place →
      ∃ es', ((start settings lists).run (es ++ e :: es')).Misses := by
  have hsound := run_sound (start_sound settings hids) es hapart
  have hcounted := run_counted (start_counted settings lists) es
  refine ⟨fun o ho ha => hits_of_sound hsound ho ha, fun e l place hover hl habout hvaried => ?_⟩
  obtain ⟨es₁, hexposed⟩ : ∃ es₁,
      ((((start settings lists).run es).step e).run es₁).Exposed l place := by
    match e, habout with
    | .press session settings .open, habout => exact open_exposed hsound hcounted hover hl habout
    | .press session settings (.remove serial), habout =>
      exact remove_exposed hsound hcounted hover hl habout
  obtain ⟨es₂, hmisses⟩ := exposed_misses hexposed hvaried
  refine ⟨es₁ ++ es₂, ?_⟩
  unfold run at hmisses ⊢
  rw [List.foldl_append, List.foldl_cons, List.foldl_append]
  exact hmisses

/-- A playlist of three tracks, the first of which is being removed when Open is pressed: so far the
removal hits, but there is a way on to one that misses. -/
theorem removals_hit_of_three_tracks :
    let lists : String → Playlist := fun mbid =>
      { mbid, creator := "rob", tracks := [{ id := "a" }, { id := "b" }, { id := "c" }] }
    let rob : Session := ⟨"https://localhost", some { name := "rob", authToken := "token" }⟩
    let es : List Event := [.give 0, .deliver 0, .press rob {} (.remove 0)]
    let s := (start { lastPlaylist := some "list" } lists).run es
    (start { lastPlaylist := some "list" } lists).Apart es ∧ s.orders.length = 1 ∧
      s.Overlaps (.press rob {} .open) ∧ (∀ o ∈ s.orders, o.answer = none → o.Hits s.lists) ∧
      ∃ es', ((start { lastPlaylist := some "list" } lists).run
        (es ++ .press rob {} .open :: es')).Misses := by
  intro lists rob es s
  have hapart : (start { lastPlaylist := some "list" } lists).Apart es := by decide +kernel
  have hover : s.Overlaps (.press rob {} .open) := by decide +kernel
  obtain ⟨hhits, hmisses⟩ :=
    @removals_hit { lastPlaylist := some "list" } lists (fun _ => rfl) es hapart
  have hany : s.orders.any (·.mutation = .removeTrack "token" "list" 0) = true := by decide +kernel
  obtain ⟨o, ho, hm⟩ := List.any_eq_true.mp hany
  exact ⟨hapart, by decide +kernel, hover, hhits,
    hmisses (.press rob {} .open) (lists "list") 0 hover (by decide +kernel)
      (Or.inl ⟨o, ho, "token", of_decide_eq_true hm⟩)
      ⟨0, { id := "a" }, { id := "b" }, Nat.le_refl 0, rfl, rfl, by decide⟩⟩

/-- **Two runs that miss.** In the first, the user removes the track `a`, presses Open, which undoes
the lock, and the removal button of `a` again; the server carries out both and has removed `b` too.
In the second, the user removes `a` while the copy of an Open is on its way, which brings `a` back,
and removes it again. -/
theorem removals_miss :
    let lists : String → Playlist := fun mbid =>
      { mbid, creator := "rob", tracks := [{ id := "a" }, { id := "b" }, { id := "c" }] }
    let rob : Session := ⟨"https://localhost", some { name := "rob", authToken := "token" }⟩
    let opened := (start { lastPlaylist := some "list" } lists).run [.give 0, .deliver 0]
    let s₁ := opened.run
      [.press rob {} (.remove 0), .press rob {} .open, .press rob {} (.remove 0), .execute 1]
    let s₂ := opened.run
      [.press rob {} .open, .give 1, .press rob {} (.remove 0), .execute 2, .deliver 2, .pass 1000,
        .deliver 1, .press rob {} (.remove 3)]
    (¬ ∀ o ∈ s₁.orders, o.answer = none → o.Hits s₁.lists) ∧
      ((s₁.step (.execute 3)).lists "list").tracks = [{ id := "c" }] ∧
    (¬ ∀ o ∈ s₂.orders, o.answer = none → o.Hits s₂.lists) ∧
      ((s₂.step (.execute 3)).lists "list").tracks = [{ id := "c" }] := by
  decide +kernel

end Curation

end ListenDeck
