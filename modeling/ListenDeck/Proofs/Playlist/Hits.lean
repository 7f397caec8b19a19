import ListenDeck.Proofs.Playlist.Curation
import ListenDeck.Proofs.Playlist.Turns

/-!
# Removals hit the track of their card

The server moves the tracks behind a removed one at once, the page only after the grace. What keeps
the places of the page right is that there is one removal at a time and no playlist on its way
meanwhile.

* `Curation.Stage`: how far a removal has got, and where the page and the server differ then.
* `Curation.Sound`: the invariant; every event keeps it unless a load and a removal come together
  (`step_sound`), hence every run in which they stay apart (`run_sound`).
-/

namespace ListenDeck

namespace Playlist

theorem hasAt_of_getElem? {l : Playlist} {place : Nat} {t : PlaylistTrack}
    (h : l.tracks[place]? = some t) : l.hasAt place (Item.track t).identity = true := by
  simp [hasAt, h, Item.identity]

theorem lt_of_hasAt {l : Playlist} {place : Nat} {identity : Identity}
    (h : l.hasAt place identity = true) : place < l.tracks.length := by
  by_contra hlt
  rw [Nat.not_lt] at hlt
  simp [hasAt, List.getElem?_eq_none hlt] at h

theorem removeAt_of_hasAt {l : Playlist} {place : Nat} {identity : Identity}
    (h : l.hasAt place identity = true) : (l.removeAt place identity).1 = l.erase place := by
  unfold removeAt
  rw [if_pos h]
  rfl

end Playlist

namespace Curation

/-- A removal of the track at a place of the playlist that is shown is under way. -/
structure Pending (s : Curation) (l : Playlist) (card place : Nat) (identity : Identity) :
    Prop where
  fetches : s.fetches = []
  locked : s.page.locked = true
  playlist : s.page.playlist = some l
  hasAt : l.hasAt place identity = true
  mounted : s.page.shelf.isMounted card = true
  owned : ∃ session : Session, session.canEditPlaylist l.creator = true

/-- **How far a removal has got.** There is none, and the page agrees with the server; it was asked
for, and may be refused; the server has carried it out, so that its copy is without the track; the
page knows, and waits for the grace. -/
inductive Stage (s : Curation) : Prop where
  | idle (ho : s.orders = []) (hr : s.page.shelf.removals = [])
      (hv : ∀ l, s.page.playlist = some l → s.lists l.mbid = l)
  | ordered (o : Order) (l : Playlist) (token : String) (place : Nat) (ho : s.orders = [o])
      (hr : s.page.shelf.removals = []) (hp : s.Pending l o.card place o.item.identity)
      (hm : o.mutation = .removeTrack token l.mbid place)
      (ha : ∀ status, o.answer ≠ some (.ok status)) (hv : s.lists l.mbid = l)
  | executed (o : Order) (l : Playlist) (token : String) (place : Nat) (ho : s.orders = [o])
      (hr : s.page.shelf.removals = []) (hp : s.Pending l o.card place o.item.identity)
      (hm : o.mutation = .removeTrack token l.mbid place)
      (ha : o.answer = some (.ok statusOk)) (hv : s.lists l.mbid = l.erase place)
  | armed (r : CardRemoval) (l : Playlist) (ho : s.orders = [])
      (hr : s.page.shelf.removals = [r]) (hp : s.Pending l r.card r.place r.identity)
      (hv : s.lists l.mbid = l.erase r.place)

theorem Pending.transfer {s s' : Curation} {l : Playlist} {card place : Nat} {identity : Identity}
    (h : s.Pending l card place identity) (hf : s.fetches = [] → s'.fetches = [])
    (hp : s'.page.playlist = s.page.playlist) (hlock : s'.page.locked = s.page.locked)
    (hs : s'.page.shelf = s.page.shelf) : s'.Pending l card place identity :=
  ⟨hf h.fetches, hlock.trans h.locked, hp.trans h.playlist, h.hasAt, by rw [hs]; exact h.mounted,
    h.owned⟩

theorem Stage.transfer {s s' : Curation} (h : s.Stage) (hf : s.fetches = [] → s'.fetches = [])
    (ho : s'.orders = s.orders) (hl : s'.lists = s.lists)
    (hp : s'.page.playlist = s.page.playlist) (hlock : s'.page.locked = s.page.locked)
    (hs : s'.page.shelf = s.page.shelf) : s'.Stage := by
  have hrem : s'.page.shelf.removals = s.page.shelf.removals := by rw [hs]
  cases h with
  | idle hnil hr hv =>
    exact .idle (ho.trans hnil) (hrem.trans hr) fun l h => by rw [hl]; exact hv l (hp.symm.trans h)
  | ordered o l token place hone hr hpen hm ha hv =>
    exact .ordered o l token place (ho.trans hone) (hrem.trans hr) (hpen.transfer hf hp hlock hs)
      hm ha (by rw [hl]; exact hv)
  | executed o l token place hone hr hpen hm ha hv =>
    exact .executed o l token place (ho.trans hone) (hrem.trans hr) (hpen.transfer hf hp hlock hs)
      hm ha (by rw [hl]; exact hv)
  | armed r l hnil hr hpen hv =>
    exact .armed r l (ho.trans hnil) (hrem.trans hr) (hpen.transfer hf hp hlock hs)
      (by rw [hl]; exact hv)

/-- **The invariant**: cards show the tracks, the server keeps each playlist under its id, at most
one playlist is on its way and as the server has it, and a removal is at one of its stages. -/
structure Sound (s : Curation) : Prop where
  inOrder : s.page.InOrder
  numbered : s.page.shelf.Numbered
  ids : ∀ mbid, (s.lists mbid).mbid = mbid
  loading : s.fetches = [] ∨ ∃ f, s.fetches = [f] ∧ s.page.loading = true
  given : ∀ f ∈ s.fetches, ∀ l, f.answer = some (.ok l) → l = s.lists f.mbid
  stage : s.Stage

/-- **What the server has not carried out hits the track of its card.** -/
theorem hits_of_sound {s : Curation} (h : s.Sound) {o : Order} (ho : o ∈ s.orders)
    (ha : o.answer = none) : o.Hits s.lists := by
  cases h.stage with
  | idle hnil _ _ => rw [hnil] at ho; exact (List.not_mem_nil ho).elim
  | ordered o' l token place hone _ hp hm _ hv =>
    rw [hone, List.mem_singleton] at ho
    subst ho
    exact ⟨token, l.mbid, place, hm, by rw [hv]; exact hp.hasAt⟩
  | executed o' l token place hone _ _ _ hdone _ =>
    rw [hone, List.mem_singleton] at ho
    subst ho
    rw [ha] at hdone
    cases hdone
  | armed r l hnil _ _ _ => rw [hnil] at ho; exact (List.not_mem_nil ho).elim

section Steps
variable {s : Curation}

theorem loading_apart (h : s.Sound) (hl : s.page.loading = false) : s.fetches = [] := by
  rcases h.loading with h | ⟨f, -, hload⟩
  · exact h
  · rw [hl] at hload; cases hload

theorem agrees_of_not_removing (h : s.Sound) (hr : ¬ s.Removing) :
    s.orders = [] ∧ s.page.shelf.removals = [] ∧
      ∀ l, s.page.playlist = some l → s.lists l.mbid = l := by
  unfold Removing at hr
  rw [not_or, not_not, not_not] at hr
  cases h.stage with
  | idle ho hr hv => exact ⟨ho, hr, hv⟩
  | ordered o l _ _ ho => rw [ho] at hr; simp at hr
  | executed o l _ _ ho => rw [ho] at hr; simp at hr
  | armed r l _ hrem => rw [hrem] at hr; simp at hr

/-- While a removal is under way the page is locked and no playlist is on its way. -/
theorem locked_of_removing (h : s.Sound) (hr : s.Removing) :
    s.page.locked = true ∧ s.fetches = [] := by
  cases h.stage with
  | idle ho hrem _ =>
    rcases hr with hr | hr
    · exact absurd ho hr
    · exact absurd hrem hr
  | ordered o l _ _ _ _ hp => exact ⟨hp.locked, hp.fetches⟩
  | executed o l _ _ _ _ hp => exact ⟨hp.locked, hp.fetches⟩
  | armed r l _ _ hp => exact ⟨hp.locked, hp.fetches⟩

/-! ## The user -/

/-- A change to the page that the invariant does not look at. -/
theorem sound_of_page (h : s.Sound) {p : PlaylistPage} (hp : p.playlist = s.page.playlist)
    (hl : p.loading = s.page.loading) (hlock : p.locked = s.page.locked)
    (hs : p.shelf = s.page.shelf) : ({ s with page := p } : Curation).Sound := by
  have htracks : p.tracks = s.page.tracks := by unfold PlaylistPage.tracks; rw [hp]
  refine ⟨?_, by rw [hs]; exact h.numbered, h.ids, ?_, h.given, ?_⟩
  · unfold PlaylistPage.InOrder
    rw [hs, htracks]
    exact h.inOrder
  · rw [hl]; exact h.loading
  · exact h.stage.transfer id rfl rfl hp hlock hs

theorem sound_load (h : s.Sound) (hr : ¬ s.Removing) (hl : s.page.loading = false)
    (mbid : String) :
    (s.turn ({ s.page with loading := true, locked := false }, [.ask (.playlist mbid)])).Sound := by
  obtain ⟨ho, hrem, hv⟩ := agrees_of_not_removing h hr
  have hf := loading_apart h hl
  refine ⟨h.inOrder, h.numbered, h.ids, ?_, fun f hm l ha => ?_, .idle ho hrem hv⟩
  · exact Or.inr ⟨{ number := s.requests, mbid }, by simp [turn, ask, hf], rfl⟩
  · simp only [turn, List.foldl_cons, List.foldl_nil, ask, hf, List.nil_append,
      List.mem_singleton] at hm
    subst hm
    cases ha

theorem sound_remove (h : s.Sound) (hf : s.fetches = []) (hlock : s.page.locked = false)
    {serial : Nat} {c : MountedCard String} (hc : s.page.shelf.find? serial = some c)
    {session : Session} (he : session.canEditPlaylist s.page.shownList.creator = true)
    (token : String) (grace : Nat) :
    (s.turn ({ s.page with locked := true }, [.ask (.change serial c.shown
      (.removeTrack token s.page.shownList.mbid (s.page.placeOf serial)) grace)])).Sound := by
  have hr : ¬ s.Removing := fun hr => by
    rw [(locked_of_removing h hr).1] at hlock
    cases hlock
  obtain ⟨ho, hrem, hv⟩ := agrees_of_not_removing h hr
  obtain ⟨t, ht, hshown⟩ := PlaylistPage.track_of_find? h.inOrder hc
  obtain ⟨l, hl⟩ : ∃ l, s.page.playlist = some l := by
    rw [← Option.isSome_iff_exists]
    by_contra hnone
    unfold PlaylistPage.tracks at ht
    rw [Option.not_isSome_iff_eq_none] at hnone
    rw [hnone] at ht
    simp at ht
  rw [PlaylistPage.tracks_of_some hl] at ht
  have hlist : s.page.shownList = l := PlaylistPage.shownList_of_some hl
  refine ⟨h.inOrder, h.numbered, h.ids, Or.inl hf, fun f hm => ?_, ?_⟩
  · simp only [turn, List.foldl_cons, List.foldl_nil, ask, hf] at hm
    exact (List.not_mem_nil hm).elim
  · refine .ordered { number := s.requests, card := serial, item := c.shown, mutation := _, grace }
      l token (s.page.placeOf serial) (by simp [turn, ask, ho]; rfl) hrem ?_ ?_ (by simp) (hv l hl)
    · refine ⟨hf, rfl, hl, ?_, Shelf.isMounted_of_find? _ hc, session, by rw [← hlist]; exact he⟩
      rw [hshown]
      exact Playlist.hasAt_of_getElem? ht
    · rw [hlist]

theorem press_sound (h : s.Sound) (session : Session) (settings : Settings) (button : Button)
    (hapart : ¬ s.Overlaps (.press session settings button)) :
    (s.step (.press session settings button)).Sound := by
  cases button with
  | type text =>
    exact sound_of_page (p := { s.page with field := text }) h rfl rfl rfl rfl
  | «open» =>
    show (s.turn (s.page.load s.page.field)).Sound
    rcases PlaylistPage.load_cases s.page s.page.field with hsame | ⟨hl, hload⟩
    · rw [hsame]; exact h
    · rw [hload]
      refine sound_load h (fun hr => hapart (Or.inl ⟨?_, hr⟩)) hl _
      show (s.page.load s.page.field).2.any asksList = true
      rw [hload]
      rfl
  | remove serial =>
    show (s.turn (s.page.remove session settings serial)).Sound
    rcases PlaylistPage.remove_cases s.page session settings serial with
      hsame | ⟨c, token, hlock, hc, he, hremove⟩
    · rw [hsame]; exact h
    · have hf : s.fetches = [] := by
        by_contra hf
        refine hapart (Or.inr ⟨?_, hf⟩)
        show (s.page.remove session settings serial).2.any asksChange = true
        rw [hremove]
        rfl
      rw [hremove]
      exact sound_remove h hf hlock hc he token _

/-! ## The server -/

theorem give_sound (h : s.Sound) (number : Nat) {answer : Fetch → Except ServerError Playlist}
    (ha : ∀ f l, answer f = .ok l → l = s.lists f.mbid) : (s.give number answer).Sound := by
  have hnil : s.fetches = [] → (s.give number answer).fetches = [] := fun hf => by
    simp only [give, hf, List.map_nil]
  refine ⟨h.inOrder, h.numbered, h.ids, ?_, fun f hm l hl => ?_, ?_⟩
  · rcases h.loading with hf | ⟨f, hf, hload⟩
    · exact Or.inl (hnil hf)
    · exact Or.inr ⟨_, by simp only [give, hf, List.map_cons, List.map_nil]; rfl, hload⟩
  · obtain ⟨g, hg, rfl⟩ := List.mem_map.mp hm
    by_cases hnew : g.number = number ∧ g.answer = none
    · rw [if_pos hnew] at hl ⊢
      exact ha g l (Option.some.inj hl)
    · rw [if_neg hnew] at hl ⊢
      exact h.given g hg l hl
  · exact h.stage.transfer hnil rfl rfl rfl rfl rfl

theorem settle_error_sound (h : s.Sound) (number : Nat) (e : ServerError) :
    (s.settle number (.error e)).Sound := by
  refine ⟨h.inOrder, h.numbered, h.ids, h.loading, h.given, ?_⟩
  cases h.stage with
  | idle ho hr hv => exact .idle (by simp only [settle, ho, List.map_nil]) hr hv
  | ordered o l token place ho hr hp hm ha hv =>
    have ho' : (s.settle number (.error e)).orders =
        [if o.number = number ∧ o.answer = none then
          { o with answer := some (.error e) } else o] := by
      simp only [settle, ho, List.map_cons, List.map_nil]
    by_cases hnew : o.number = number ∧ o.answer = none
    · rw [if_pos hnew] at ho'
      exact .ordered _ l token place ho' hr (hp.transfer id rfl rfl rfl) hm (by simp) hv
    · rw [if_neg hnew] at ho'
      exact .ordered o l token place ho' hr (hp.transfer id rfl rfl rfl) hm ha hv
  | executed o l token place ho hr hp hm ha hv =>
    have hold : ¬ (o.number = number ∧ o.answer = none) := by simp [ha]
    have ho' : (s.settle number (.error e)).orders = [o] := by
      simp only [settle, ho, List.map_cons, List.map_nil, if_neg hold]
    exact .executed o l token place ho' hr (hp.transfer id rfl rfl rfl) hm ha hv
  | armed r l ho hr hp hv =>
    exact .armed r l (by simp only [settle, ho, List.map_nil]) hr (hp.transfer id rfl rfl rfl) hv

theorem sound_taken (h : s.Sound) {o : Order} {l : Playlist} {token : String} {place : Nat}
    (ho : s.orders = [o]) (hr : s.page.shelf.removals = [])
    (hp : s.Pending l o.card place o.item.identity)
    (hm : o.mutation = .removeTrack token l.mbid place) (ha : o.answer = none)
    (hv : s.lists l.mbid = l) :
    ({ s.settle o.number (.ok statusOk) with
      lists := removeFrom s.lists l.mbid place } : Curation).Sound := by
  refine ⟨h.inOrder, h.numbered, fun mbid => ?_, h.loading, fun f hf => ?_, ?_⟩
  · show (removeFrom s.lists l.mbid place mbid).mbid = mbid
    by_cases hmbid : mbid = l.mbid
    · rw [hmbid, removeFrom_self]
      exact h.ids _
    · rw [removeFrom_of_ne _ _ hmbid]
      exact h.ids mbid
  · replace hf : f ∈ s.fetches := hf
    rw [hp.fetches] at hf
    exact (List.not_mem_nil hf).elim
  · refine .executed { o with answer := some (.ok statusOk) } l token place ?_ hr
      (hp.transfer id rfl rfl rfl) hm rfl ?_
    · simp only [settle, ho, ha, List.map_cons, List.map_nil, true_and, if_true]
    · show removeFrom s.lists l.mbid place l.mbid = _
      rw [removeFrom_self, hv]

theorem execute_sound (h : s.Sound) (number : Nat) : (s.execute number).Sound := by
  cases h.stage with
  | idle ho _ _ => rw [execute_of_none (by simp [ho])]; exact h
  | executed o l token place ho _ _ _ ha _ => rw [execute_of_none (by simp [ho, ha])]; exact h
  | armed r l ho _ _ _ => rw [execute_of_none (by simp [ho])]; exact h
  | ordered o l token place ho hr hp hm ha hv =>
    by_cases hnew : o.number = number ∧ o.answer = none
    · obtain ⟨rfl, hnone⟩ := hnew
      rw [execute_eq (o := o) (by simp [ho, hnone]) hm
        (by rw [hv]; exact Playlist.lt_of_hasAt hp.hasAt)]
      exact sound_taken h ho hr hp hm hnone hv
    · rw [execute_of_none (by simpa [ho] using hnew)]
      exact h

/-! ## Answers and time -/

theorem sound_arranged (h : s.Sound) {p : PlaylistPage} {fetches : List Fetch} {orders : List Order}
    {now : Nat} (hf : fetches = []) (ho : orders = []) (hn : p.shelf.Numbered)
    (hr : p.shelf.removals = []) (hv : ∀ l, p.playlist = some l → s.lists l.mbid = l) :
    ({ s with page := p.arranged, fetches, orders, now } : Curation).Sound := by
  refine ⟨PlaylistPage.arranged_inOrder p, Shelf.arrange_numbered hn _, h.ids, Or.inl hf,
    fun f hm => ?_, .idle ho ?_ hv⟩
  · rw [hf] at hm
    exact (List.not_mem_nil hm).elim
  · show (p.shelf.removals.filter _) = []
    rw [hr]
    rfl

theorem deliverList_sound (h : s.Sound) (number : Nat) : (s.deliverList number).Sound := by
  rcases s.deliverList_cases number with hsame | ⟨f, hf, answer, hnumber, ha, hdeliver⟩
  · rw [hsame]; exact h
  · have hone : s.fetches = [f] := by
      rcases h.loading with hnil | ⟨f', hone, -⟩
      · rw [hnil] at hf
        exact (List.not_mem_nil hf).elim
      · rw [hone, List.mem_singleton] at hf
        rw [hone, hf]
    have hnil : s.fetches.filter (·.number ≠ number) = [] := by simp [hone, hnumber]
    obtain ⟨ho, hr, hv⟩ := agrees_of_not_removing h fun hr => by
      rw [(locked_of_removing h hr).2] at hone
      cases hone
    rw [hdeliver]
    cases answer with
    | error e =>
      refine ⟨h.inOrder, h.numbered, h.ids, Or.inl hnil, fun f hm => ?_, .idle ho hr hv⟩
      replace hm : f ∈ s.fetches.filter (·.number ≠ number) := hm
      rw [hnil] at hm
      exact (List.not_mem_nil hm).elim
    | ok l =>
      refine sound_arranged (p := { s.page with playlist := some l, loading := false }) h hnil ho
        h.numbered hr fun l' hl' => ?_
      obtain rfl : l = l' := Option.some.inj hl'
      rw [h.given f hf l ha, h.ids]

theorem sound_refused (h : s.Sound) {o : Order} {l : Playlist} {token : String} {place : Nat}
    (ho : s.orders = [o]) (hr : s.page.shelf.removals = [])
    (hp : s.Pending l o.card place o.item.identity)
    (hm : o.mutation = .removeTrack token l.mbid place) (hv : s.lists l.mbid = l)
    (e : ServerError) :
    ({ s with orders := s.orders.filter (·.number ≠ o.number) }.turn
      (s.page.changed s.now o.card o.item o.mutation o.grace (.error e))).Sound := by
  rw [hm, PlaylistPage.changed_error s.page _ _ _ _ _ _ _ hp.mounted]
  refine ⟨h.inOrder, h.numbered, h.ids, Or.inl hp.fetches, h.given, .idle ?_ hr fun l' hl' => ?_⟩
  · show s.orders.filter (·.number ≠ o.number) = []
    simp [ho]
  · obtain rfl : l = l' := Option.some.inj (hp.playlist.symm.trans hl')
    exact hv

theorem sound_armed (h : s.Sound) {o : Order} {l : Playlist} {token : String} {place : Nat}
    (ho : s.orders = [o]) (hr : s.page.shelf.removals = [])
    (hp : s.Pending l o.card place o.item.identity)
    (hm : o.mutation = .removeTrack token l.mbid place) (hv : s.lists l.mbid = l.erase place) :
    ({ s with orders := s.orders.filter (·.number ≠ o.number) }.turn
      (s.page.changed s.now o.card o.item o.mutation o.grace (.ok statusOk))).Sound := by
  rw [hm, PlaylistPage.changed_ok s.page _ _ _ _ _ _ _ hp.mounted]
  refine ⟨(s.page.shelf.arm_map (fun _ => rfl) o.card o.item.identity place _).trans h.inOrder,
    Shelf.arm_numbered h.numbered _ _ _ _, h.ids, Or.inl hp.fetches, h.given, ?_⟩
  refine .armed ⟨o.card, o.item.identity, place, s.now + o.grace⟩ l ?_ ?_ ?_ hv
  · show s.orders.filter (·.number ≠ o.number) = []
    simp [ho]
  · show s.page.shelf.removals ++ _ = _
    rw [hr]
    rfl
  · exact ⟨hp.fetches, hp.locked, hp.playlist, hp.hasAt,
      s.page.shelf.arm_isMounted hp.mounted _ _ _, hp.owned⟩

theorem deliverChange_sound (h : s.Sound) (number : Nat) : (s.deliverChange number).Sound := by
  rcases s.deliverChange_cases number with hsame | ⟨o, hmem, answer, rfl, hanswer, hdeliver⟩
  · rw [hsame]; exact h
  · rw [hdeliver]
    cases h.stage with
    | idle ho _ _ => rw [ho] at hmem; exact (List.not_mem_nil hmem).elim
    | armed r l ho _ _ _ => rw [ho] at hmem; exact (List.not_mem_nil hmem).elim
    | ordered o' l token place ho hr hp hm ha hv =>
      obtain rfl : o = o' := List.mem_singleton.mp (ho ▸ hmem)
      cases answer with
      | ok status => exact absurd hanswer (ha status)
      | error e => exact sound_refused h ho hr hp hm hv e
    | executed o' l token place ho hr hp hm ha hv =>
      obtain rfl : o = o' := List.mem_singleton.mp (ho ▸ hmem)
      obtain rfl : answer = .ok statusOk := Option.some.inj (hanswer.symm.trans ha)
      exact sound_armed h ho hr hp hm hv

theorem sound_now (h : s.Sound) (now : Nat) : ({ s with now } : Curation).Sound :=
  ⟨h.inOrder, h.numbered, h.ids, h.loading, h.given, h.stage.transfer id rfl rfl rfl rfl rfl⟩

theorem pass_sound (h : s.Sound) (ms : Nat) : (s.step (.pass ms)).Sound := by
  have hsame : s.page.elapse (s.now + ms) = s.page → (s.step (.pass ms)).Sound := fun he => by
    show ({ s with now := s.now + ms, page := s.page.elapse (s.now + ms) } : Curation).Sound
    rw [he]
    exact sound_now h _
  cases h.stage with
  | idle _ hr _ => exact hsame (PlaylistPage.elapse_of_nil hr _)
  | ordered o l token place _ hr => exact hsame (PlaylistPage.elapse_of_nil hr _)
  | executed o l token place _ hr => exact hsame (PlaylistPage.elapse_of_nil hr _)
  | armed r l ho hr hp hv =>
    rcases PlaylistPage.elapse_of_singleton hr hp.mounted (s.now + ms) with ⟨-, he⟩ | ⟨-, he⟩
    · exact hsame he
    · show ({ s with now := s.now + ms, page := s.page.elapse (s.now + ms) } : Curation).Sound
      rw [he]
      refine sound_arranged h hp.fetches ho ⟨h.numbered.nodup, h.numbered.lt⟩ rfl fun l' hl' => ?_
      obtain rfl : l.erase r.place = l' := by
        rw [← Playlist.removeAt_of_hasAt hp.hasAt]
        have hmap : s.page.playlist.map (fun l => (l.removeAt r.place r.identity).1) = some l' :=
          hl'
        rw [hp.playlist] at hmap
        exact Option.some.inj hmap
      exact hv

/-- **Every event keeps the invariant**, unless a load and a removal come together. -/
theorem step_sound (h : s.Sound) (e : Event) (hapart : ¬ s.Overlaps e) : (s.step e).Sound := by
  cases e with
  | press session settings button => exact press_sound h session settings button hapart
  | give number => exact give_sound h number fun f l hl => (Except.ok.inj hl).symm
  | execute number => exact execute_sound h number
  | refuse number e =>
    exact settle_error_sound (give_sound h number fun f l hl => by cases hl) number e
  | deliver number => exact deliverChange_sound (deliverList_sound h number) number
  | pass ms => exact pass_sound h ms

theorem run_sound (h : s.Sound) (es : List Event) (hapart : s.Apart es) : (s.run es).Sound := by
  induction es generalizing s with
  | nil => exact h
  | cons e es ih => exact ih (step_sound h e hapart.1) hapart.2

end Steps

theorem start_sound (settings : Settings) {lists : String → Playlist}
    (hids : ∀ mbid, (lists mbid).mbid = mbid) : (start settings lists).Sound := by
  have hempty : ({ page := { field := settings.lastPlaylist.getD "" }, lists } : Curation).Sound :=
    ⟨rfl, ⟨List.nodup_nil, fun c hc => (List.not_mem_nil hc).elim⟩, hids, Or.inl rfl,
      fun f hf => (List.not_mem_nil hf).elim, .idle rfl rfl fun l hl => by cases hl⟩
  have hnot : ¬ Removing { page := { field := settings.lastPlaylist.getD "" }, lists } := by
    rintro (hr | hr) <;> exact hr rfl
  unfold start PlaylistPage.start
  rcases PlaylistPage.load_cases { field := settings.lastPlaylist.getD "" }
    (settings.lastPlaylist.getD "") with hsame | ⟨-, hload⟩
  · rw [hsame]; exact hempty
  · rw [hload]; exact sound_load hempty hnot rfl _

end Curation

end ListenDeck
