import ListenDeck.Proofs.Playlist.Hits
import ListenDeck.Proofs.Playlist.Runs

/-!
# The marks of deleted tracks

A track that the server has removed stays on the page for the grace, its card marked as deleted.
When it leaves, the keys of its id are handed out anew from the top, so the key that goes is the
last one. The marked card goes only if it has that key. Otherwise it stays and shows the next
occurrence of the track's id from then on, marked as it is.

* `PlaylistPage.Rests`: nothing moves but flags of playing and the text of the field. So it is
  while a removal is under way (`rests_run`).
* `PlaylistPage.removal_marks`: the page after the grace.
-/

namespace ListenDeck

namespace Shelf

variable {κ : Type}

/-- What is known of each card besides its items: key, number, and whether it is marked. -/
def marks (s : Shelf κ) : List (κ × Nat × Bool) := s.cards.map fun c => (c.key, c.serial, c.deleted)

theorem mem_marks {s : Shelf κ} {k : κ} {serial : Nat} {b : Bool} :
    (k, serial, b) ∈ s.marks ↔ ∃ c ∈ s.cards, c.key = k ∧ c.serial = serial ∧ c.deleted = b := by
  simp only [marks, List.mem_map, Prod.mk.injEq]

theorem arm_marks (s : Shelf κ) (serial : Nat) (identity : Identity) (place deadline : Nat) :
    (s.arm serial identity place deadline).marks =
      s.marks.map fun m => if m.2.1 = serial then (m.1, m.2.1, true) else m := by
  unfold marks arm modify
  rw [List.map_map, List.map_map]
  refine List.map_congr_left fun c _ => ?_
  by_cases h : c.serial = serial <;> simp [h]

end Shelf

namespace PlaylistPage

/-! ## While a removal is under way -/

/-- **Nothing moves** but flags of playing and the text of the field. -/
structure Rests (p q : PlaylistPage) : Prop where
  playlist : q.playlist = p.playlist
  locked : q.locked = p.locked
  removals : q.shelf.removals = p.shelf.removals
  marks : q.shelf.marks = p.shelf.marks

theorem Rests.refl (p : PlaylistPage) : Rests p p := ⟨rfl, rfl, rfl, rfl⟩

theorem Rests.trans {p q r : PlaylistPage} (h : Rests p q) (h' : Rests q r) : Rests p r :=
  ⟨h'.playlist.trans h.playlist, h'.locked.trans h.locked, h'.removals.trans h.removals,
    h'.marks.trans h.marks⟩

theorem Rests.isMounted {p q : PlaylistPage} (h : Rests p q) {serial : Nat}
    (hm : p.shelf.isMounted serial = true) : q.shelf.isMounted serial = true := by
  have hserials : q.shelf.cards.map (·.serial) = p.shelf.cards.map (·.serial) := by
    have := congrArg (List.map fun m => m.2.1) h.marks
    rwa [Shelf.marks, Shelf.marks, List.map_map, List.map_map] at this
  rw [Shelf.isMounted_iff] at hm ⊢
  rw [hserials]
  exact hm

/-- The event neither asks for a playlist nor brings a reply: a press of another button than Open,
typing, or the passing of time. -/
def Event.Calm : Event → Prop
  | .act _ _ .submit => False
  | .act _ _ _ => True
  | .elapse _ => True
  | _ => False

section Rests
variable {p : PlaylistPage}

/-- While the page is locked, nothing moves when a button other than Open is pressed. -/
theorem rests_act (hlock : p.locked = true) (session : Session) (settings : Settings) {m : Message}
    (hm : (Event.act session settings m).Calm) : Rests p (p.update session settings m).1 := by
  have hact : ∀ serial m, Rests p { p with shelf := (p.shelf.act session
      settings.removalGraceMs.toNat (p.removal serial) serial m).1 } := fun serial m =>
    ⟨rfl, rfl, (p.shelf.act_rest _ _ _ serial m).2,
      p.shelf.act_map (fun _ _ => rfl) _ _ _ serial m⟩
  cases m with
  | type text => exact ⟨rfl, rfl, rfl, rfl⟩
  | submit => exact absurd hm not_false
  | card serial m =>
    cases m with
    | delete =>
      simp only [update, remove, if_pos hlock]
      exact Rests.refl p
    | play => exact hact serial .play
    | rate requested => exact hact serial (.rate requested)
    | recommend => exact hact serial .recommend
    | pin => exact hact serial .pin

theorem elapse_of_waiting {now : Nat} (h : ∀ r ∈ p.shelf.removals, now < r.deadline) :
    p.elapse now = p := by
  have hdue : p.shelf.removals.filter (·.deadline ≤ now) = [] := by
    rw [List.filter_eq_nil_iff]
    intro r hr
    have := h r hr
    simpa using this
  have hwait : p.shelf.removals.filter (now < ·.deadline) = p.shelf.removals := by
    rw [List.filter_eq_self]
    intro r hr
    simpa using h r hr
  simp only [elapse, Shelf.due, hdue, hwait, List.mergeSort_nil, List.foldl_nil]

/-- **Nothing moves while a removal is under way**, as long as no removal is over. -/
theorem rests_run (hlock : p.locked = true) {es : List Event} (hcalm : ∀ e ∈ es, e.Calm)
    (htime : ∀ now, .elapse now ∈ es → ∀ r ∈ p.shelf.removals, now < r.deadline) :
    Rests p (p.run es) := by
  induction es generalizing p with
  | nil => exact Rests.refl p
  | cons e es ih =>
    obtain ⟨he, hes⟩ := List.forall_mem_cons.mp hcalm
    have hstep : Rests p (p.step e) := by
      cases e with
      | act session settings m => exact rests_act hlock session settings he
      | elapse now =>
        rw [step, elapse_of_waiting (htime now List.mem_cons_self)]
        exact Rests.refl p
      | came mbid reply => exact absurd he not_false
      | answered now serial item m grace reply => exact absurd he not_false
    refine hstep.trans (ih (hstep.locked.trans hlock) hes fun now hnow r hr => ?_)
    rw [hstep.removals] at hr
    exact htime now (List.mem_cons_of_mem _ hnow) r hr

end Rests

/-! ## A removal from its press to its end -/

section Removal
variable {p : PlaylistPage} {session : Session} {settings : Settings} {place : Nat}
  {c : MountedCard String} {t : PlaylistTrack}

/-- **When the grace of a track's removal is over**, the track leaves, and the other tracks are laid
out. A card is marked then if the card of its key was. -/
theorem elapse_removal {q : PlaylistPage} {l : Playlist} {r : CardRemoval} (h : q.Laid)
    (hl : q.playlist = some l) (hr : q.shelf.removals = [r])
    (hm : q.shelf.isMounted r.card = true) (hhas : l.hasAt r.place r.identity = true) {now : Nat}
    (hnow : r.deadline ≤ now) :
    (q.elapse now).Laid ∧ (q.elapse now).tracks = q.tracks.eraseIdx r.place ∧
      ∀ d ∈ (q.elapse now).shelf.cards,
        d.deleted = true ↔ ∃ i, (d.key, i, true) ∈ q.shelf.marks := by
  have helapse : q.elapse now =
      ({ q with shelf := { q.shelf with removals := [] } } : PlaylistPage).without r := by
    rcases elapse_of_singleton hr hm now with ⟨hlt, -⟩ | ⟨-, h⟩
    · omega
    · exact h
  have htracks : (q.elapse now).tracks = q.tracks.eraseIdx r.place := by
    rw [helapse, tracks_of_some hl]
    unfold without
    simp only [hl, Option.map_some, Playlist.removeAt_of_hasAt hhas]
    rfl
  refine ⟨elapse_laid h now, htracks, fun d hd => ?_⟩
  rw [helapse] at hd
  rw [Shelf.arrange_deleted h.nodup (by rw [wanted_keys]; exact nodup_trackKeys _) hd]
  simp only [Shelf.mem_marks]
  exact ⟨fun ⟨c, hc, hkey, hdel⟩ => ⟨c.serial, c, hc, hkey, rfl, hdel⟩,
    fun ⟨_, c, hc, hkey, _, hdel⟩ => ⟨c, hc, hkey, hdel⟩⟩

/-- The marks while the removal of a card waits for its grace: those there were, and the card's. -/
theorem mem_marks_arm (h : p.Laid) (hc : c ∈ p.shelf.cards) {s : Shelf String}
    (hs : s.marks = p.shelf.marks) (identity : Identity) (deadline : Nat) {k : String} :
    (∃ i, (k, i, true) ∈ (s.arm c.serial identity place deadline).marks) ↔
      ∃ c' ∈ p.shelf.cards, c'.key = k ∧ (c' = c ∨ c'.deleted = true) := by
  rw [Shelf.arm_marks, hs]
  constructor
  · rintro ⟨i, hi⟩
    obtain ⟨⟨k', i', b⟩, hm, heq⟩ := List.mem_map.mp hi
    obtain ⟨c', hc', rfl, rfl, rfl⟩ := Shelf.mem_marks.mp hm
    by_cases hserial : c'.serial = c.serial
    · rw [if_pos hserial] at heq
      obtain ⟨rfl, -⟩ := Prod.mk.inj heq
      exact ⟨c', hc', rfl, .inl (List.inj_on_of_nodup_map h.numbered.nodup hc' hc hserial)⟩
    · rw [if_neg hserial] at heq
      simp only [Prod.mk.injEq] at heq
      exact ⟨c', hc', heq.1, .inr heq.2.2⟩
  · rintro ⟨c', hc', rfl, hmarked⟩
    refine ⟨c'.serial, List.mem_map.mpr ⟨(c'.key, c'.serial, c'.deleted), ?_, ?_⟩⟩
    · exact Shelf.mem_marks.mpr ⟨c', hc', rfl, rfl, rfl⟩
    · rcases hmarked with rfl | hdel
      · simp
      · simp [hdel]

/-- **A removal from its confirmation to its end.** The page is locked, so nothing moves until the
grace is over. -/
theorem run_confirmed (h : p.Laid) (hlock : p.locked = true) (hremovals : p.shelf.removals = [])
    {serial : Nat} (hm : p.shelf.isMounted serial = true) (ht : p.tracks[place]? = some t)
    (token mbid : String) {es : List Event} (hcalm : ∀ e ∈ es, e.Calm) {now grace late : Nat}
    (hearly : ∀ time, .elapse time ∈ es → time < now + grace) (hlate : now + grace ≤ late) :
    let q := p.run (.answered now serial (.track t) (.removeTrack token mbid place) grace
      (.ok 200) :: es ++ [.elapse late])
    q.Laid ∧ q.tracks = p.tracks.eraseIdx place ∧ ∀ d ∈ q.shelf.cards, d.deleted = true ↔
      ∃ i, (d.key, i, true) ∈
        (p.shelf.arm serial (Item.track t).identity place (now + grace)).marks := by
  intro q
  let r : CardRemoval := ⟨serial, (Item.track t).identity, place, now + grace⟩
  let armed : PlaylistPage :=
    { p with shelf := p.shelf.arm serial r.identity place r.deadline }
  have hstep : p.step (.answered now serial (.track t) (.removeTrack token mbid place) grace
      (.ok 200)) = armed :=
    congrArg Prod.fst (changed_ok p now serial (.track t) token mbid place grace hm)
  have hlocked : armed.locked = true := hlock
  have harmed : armed.shelf.removals = [r] := by
    simp only [armed, Shelf.arm, Shelf.modify, hremovals, List.nil_append, r]
  have hrests : Rests armed (armed.run es) := by
    refine rests_run hlocked hcalm fun time htime r' hr' => ?_
    rw [harmed, List.mem_singleton] at hr'
    rw [hr']
    exact hearly time htime
  have hlaid : (armed.run es).Laid := by
    rw [← hstep]
    exact run_laid (step_laid h _) es
  obtain ⟨l, hl⟩ : ∃ l, p.playlist = some l := by
    cases hl : p.playlist with
    | none => simp [tracks, hl] at ht
    | some l => exact ⟨l, rfl⟩
  have hhas : l.hasAt place r.identity = true := by
    rw [tracks_of_some hl] at ht
    exact Playlist.hasAt_of_getElem? ht
  have htracks : (armed.run es).tracks = p.tracks := by rw [tracks, tracks, hrests.playlist]
  have hq : q = (armed.run es).elapse late := by
    simp only [q, run, List.cons_append, List.foldl_cons, List.foldl_append, List.foldl_nil]
    rw [hstep]
    rfl
  rw [hq, ← htracks, ← hrests.marks]
  exact elapse_removal hlaid (hrests.playlist.trans hl) (hrests.removals.trans harmed)
    (hrests.isMounted (Shelf.arm_isMounted p.shelf hm _ _ _)) hhas hlate

/-- **A removal from its press to its end.** -/
theorem run_removal (h : p.Laid) (hlock : p.locked = false) (hremovals : p.shelf.removals = [])
    (hcard : p.shelf.cards[place]? = some c)
    (hedit : session.canEditPlaylist p.shownList.creator = true) {es₁ es₂ : List Event}
    (h₁ : ∀ e ∈ es₁, e.Calm) (h₂ : ∀ e ∈ es₂, e.Calm) {now late : Nat}
    (hearly : ∀ time, .elapse time ∈ es₂ → time < now + settings.removalGraceMs.toNat)
    (hlate : now + settings.removalGraceMs.toNat ≤ late) :
    ∃ t token, p.tracks[place]? = some t ∧
      (p.update session settings (.card c.serial .delete)).2 = [.ask (.change c.serial (.track t)
        (.removeTrack token p.shownList.mbid place) settings.removalGraceMs.toNat)] ∧
      let q := p.run (.act session settings (.card c.serial .delete) :: es₁ ++
        .answered now c.serial (.track t) (.removeTrack token p.shownList.mbid place)
          settings.removalGraceMs.toNat (.ok 200) :: es₂ ++ [.elapse late])
      q.Laid ∧ q.tracks = p.tracks.eraseIdx place ∧ ∀ d ∈ q.shelf.cards, d.deleted = true ↔
        ∃ c' ∈ p.shelf.cards, c'.key = d.key ∧ (c' = c ∨ c'.deleted = true) := by
  obtain ⟨hfind, hplace⟩ := find?_of_getElem? h.numbered hcard
  obtain ⟨t, ht, hshown⟩ := track_of_find? h.inOrder hfind
  obtain ⟨token, hpress⟩ := p.remove_of_allowed settings hlock hfind hshown hedit
  rw [hplace] at ht hpress
  refine ⟨t, token, ht, congrArg Prod.snd hpress, ?_⟩
  intro q
  -- the press locks the page, and nothing moves until the reply
  let pressed : PlaylistPage := { p with locked := true }
  have hstep : p.step (.act session settings (.card c.serial .delete)) = pressed :=
    congrArg Prod.fst hpress
  have hlaid : pressed.Laid := h.congr rfl rfl rfl
  have hnone : pressed.shelf.removals = [] := hremovals
  have hrests : Rests pressed (pressed.run es₁) := by
    refine rests_run rfl h₁ fun _ _ r hr => ?_
    rw [hnone] at hr
    exact absurd hr List.not_mem_nil
  have htracks : (pressed.run es₁).tracks = p.tracks := by rw [tracks, tracks, hrests.playlist]
  obtain ⟨hqlaid, hqtracks, hqmarks⟩ := run_confirmed (run_laid hlaid es₁) hrests.locked
    (hrests.removals.trans hnone) (hrests.isMounted (p.shelf.isMounted_of_find? hfind))
    (htracks ▸ ht) token p.shownList.mbid h₂ hearly hlate
  have hq : q = (pressed.run es₁).run (.answered now c.serial (.track t)
      (.removeTrack token p.shownList.mbid place) settings.removalGraceMs.toNat (.ok 200) :: es₂ ++
      [.elapse late]) := by
    simp only [q, run, List.cons_append, List.append_assoc, List.foldl_cons, List.foldl_append,
      hstep]
  rw [← hq] at hqlaid hqtracks hqmarks
  refine ⟨hqlaid, by rw [hqtracks, htracks], fun d hd => ?_⟩
  rw [hqmarks d hd]
  exact mem_marks_arm h (List.mem_of_getElem? hcard) hrests.marks _ _

theorem key_of_card (h : p.Laid) (hcard : p.shelf.cards[place]? = some c)
    (ht : p.tracks[place]? = some t) :
    c.key = trackKey t.id (occurrences t.id (p.tracks.take (place + 1))) := by
  have hkey : (p.shelf.cards.map (·.key))[place]? = some c.key := by
    rw [List.getElem?_map, hcard]
    rfl
  rw [h.keyed, getElem?_trackKeys, ht] at hkey
  exact (Option.some.inj hkey).symm

/-- **No card is left marked** if and only if the track that left was the last of its id and no
other card was marked. -/
theorem unmarked_iff {q : PlaylistPage} (h : p.Laid) (hq : q.Laid)
    (hcard : p.shelf.cards[place]? = some c) (ht : p.tracks[place]? = some t)
    (htracks : q.tracks = p.tracks.eraseIdx place)
    (hmarks : ∀ d ∈ q.shelf.cards, d.deleted = true ↔
      ∃ c' ∈ p.shelf.cards, c'.key = d.key ∧ (c' = c ∨ c'.deleted = true)) :
    (∀ d ∈ q.shelf.cards, d.deleted = false) ↔
      (∀ t' ∈ p.tracks.drop (place + 1), t'.id ≠ t.id) ∧
        ∀ c' ∈ p.shelf.cards, c'.deleted = true → c' = c := by
  have hc : c ∈ p.shelf.cards := List.mem_of_getElem? hcard
  -- of the old keys, all are there but the last one of the track's id
  have hkept : ∀ c' ∈ p.shelf.cards,
      (∃ d ∈ q.shelf.cards, d.key = c'.key) ↔
        c'.key ≠ trackKey t.id (occurrences t.id p.tracks) := by
    intro c' hc'
    have hold : c'.key ∈ trackKeys p.tracks := by
      rw [← h.keyed]
      exact List.mem_map_of_mem hc'
    rw [← List.mem_map, hq.keyed, htracks, mem_trackKeys_eraseIdx ht, and_iff_right hold]
  rw [← last_key_iff, ← key_of_card h hcard ht]
  constructor
  · intro hall
    have hgone : ∀ c' ∈ p.shelf.cards, c' = c ∨ c'.deleted = true →
        c'.key = trackKey t.id (occurrences t.id p.tracks) := by
      intro c' hc' hmarked
      by_contra hne
      obtain ⟨d, hd, hkey⟩ := (hkept c' hc').mpr hne
      have hdel := (hmarks d hd).mpr ⟨c', hc', hkey.symm, hmarked⟩
      rw [hall d hd] at hdel
      cases hdel
    refine ⟨hgone c hc (.inl rfl), fun c' hc' hdel => ?_⟩
    exact List.inj_on_of_nodup_map h.nodup hc' hc
      ((hgone c' hc' (.inr hdel)).trans (hgone c hc (.inl rfl)).symm)
  · rintro ⟨hlast, honly⟩ d hd
    by_contra hdel
    obtain ⟨c', hc', hkey, hmarked⟩ := (hmarks d hd).mp (Bool.not_eq_false _ ▸ hdel)
    have heq : c' = c := hmarked.elim id (honly c' hc')
    subst heq
    exact (hkept c' hc').mp ⟨d, hd, hkey.symm⟩ hlast

end Removal

/-- **The page after a removal.** From any state of the page in which no removal is under way, the
removal button of a card is pressed, and the server confirms with status 200. Between the press and
the end of the grace no playlist is asked for or comes, and nothing else is answered. When the
grace is over, the track at the card's place is gone, and the cards show the others in their order,
under the keys they have now. A card is marked as deleted if the card that had its key before was
marked, or is the one whose button was pressed. Hence none is marked if and only if the track was
the last of its id and no other card was marked before. -/
theorem removal_marks (initial : Settings) (es : List Event) {session : Session}
    {settings : Settings} {place : Nat} {c : MountedCard String}
    (hlock : ((start initial).1.run es).locked = false)
    (hremovals : ((start initial).1.run es).shelf.removals = [])
    (hcard : ((start initial).1.run es).shelf.cards[place]? = some c)
    (hedit : session.canEditPlaylist ((start initial).1.run es).shownList.creator = true)
    {es₁ es₂ : List Event} (h₁ : ∀ e ∈ es₁, e.Calm) (h₂ : ∀ e ∈ es₂, e.Calm) {now late : Nat}
    (hearly : ∀ time, .elapse time ∈ es₂ → time < now + settings.removalGraceMs.toNat)
    (hlate : now + settings.removalGraceMs.toNat ≤ late) :
    let p := (start initial).1.run es
    let grace := settings.removalGraceMs.toNat
    ∃ t token, p.tracks[place]? = some t ∧
      (p.update session settings (.card c.serial .delete)).2 =
        [.ask (.change c.serial (.track t) (.removeTrack token p.shownList.mbid place) grace)] ∧
      let q := p.run (.act session settings (.card c.serial .delete) :: es₁ ++
        .answered now c.serial (.track t) (.removeTrack token p.shownList.mbid place) grace
          (.ok 200) :: es₂ ++ [.elapse late])
      q.tracks = p.tracks.eraseIdx place ∧
      q.shelf.cards.map (·.shown) = q.tracks.map .track ∧
      q.shelf.cards.map (·.key) = trackKeys q.tracks ∧
      (∀ d ∈ q.shelf.cards, d.deleted = true ↔
        ∃ c' ∈ p.shelf.cards, c'.key = d.key ∧ (c' = c ∨ c'.deleted = true)) ∧
      ((∀ d ∈ q.shelf.cards, d.deleted = false) ↔
        (∀ t' ∈ p.tracks.drop (place + 1), t'.id ≠ t.id) ∧
          ∀ c' ∈ p.shelf.cards, c'.deleted = true → c' = c) := by
  intro p grace
  have h : p.Laid := run_laid (start_laid initial) es
  obtain ⟨t, token, ht, hask, hq, htracks, hmarks⟩ :=
    run_removal h hlock hremovals hcard hedit h₁ h₂ hearly hlate
  exact ⟨t, token, ht, hask, htracks, hq.inOrder, hq.keyed, hmarks,
    unmarked_iff h hq hcard ht htracks hmarks⟩

/-- The second of two occurrences is removed: the other tracks stay, and none of them is marked. -/
theorem removal_marks_of_last_occurrence :
    let a : PlaylistTrack := { id := "a" }
    let b : PlaylistTrack := { id := "b" }
    let list : Playlist := { mbid := "list", creator := "rob", tracks := [a, b, a] }
    let rob : Session := ⟨"https://localhost", some { name := "rob", authToken := "token" }⟩
    let c : MountedCard String := { key := "a#2", serial := 2, shown := .track a, own := .track a }
    let p := (start { lastPlaylist := some "list" }).1.run [.came "list" (.ok list)]
    p.locked = false ∧ p.shelf.removals = [] ∧ p.shelf.cards[2]? = some c ∧
      rob.canEditPlaylist p.shownList.creator = true ∧ ∃ t token,
        let q := p.run [.act rob {} (.card 2 .delete),
          .answered 5 2 (.track t) (.removeTrack token p.shownList.mbid 2) 1000 (.ok 200),
          .elapse 1005]
        q.tracks = [a, b] ∧ ∀ d ∈ q.shelf.cards, d.deleted = false := by
  intro a b list rob c p
  have hlock : p.locked = false := by decide +kernel
  have hremovals : p.shelf.removals = [] := by decide +kernel
  have hcard : p.shelf.cards[2]? = some c := by decide +kernel
  have hedit : rob.canEditPlaylist p.shownList.creator = true := by decide +kernel
  obtain ⟨t, token, ht, -, htracks, -, -, -, hclean⟩ :=
    @removal_marks { lastPlaylist := some "list" } [.came "list" (.ok list)] rob {} 2 c hlock
      hremovals hcard hedit [] [] (by simp) (by simp) 5 1005 (by simp) (by decide)
  have hbehind : p.tracks.drop (2 + 1) = [] := by decide +kernel
  have hmarked : ∀ c' ∈ p.shelf.cards, c'.deleted = true → c' = c := by decide +kernel
  refine ⟨hlock, hremovals, hcard, hedit, t, token, htracks, hclean.mpr ⟨?_, hmarked⟩⟩
  exact fun t' ht' => absurd (hbehind ▸ ht') List.not_mem_nil

/-- **The mark passes to the next occurrence.** The first of two occurrences is removed: the other
one stays and shows its own track, but on the marked card. -/
theorem removal_marks_next_occurrence :
    let first : PlaylistTrack := { id := "a", addedBy := some "rob" }
    let second : PlaylistTrack := { id := "a", addedBy := some "ana" }
    let list : Playlist :=
      { mbid := "list", creator := "rob", tracks := [first, second, { id := "b" }] }
    let rob : Session := ⟨"https://localhost", some { name := "rob", authToken := "token" }⟩
    let p := (start { lastPlaylist := some "list" }).1.run [.came "list" (.ok list)]
    let q := p.run [.act rob {} (.card 0 .delete),
      .answered 5 0 (.track first) (.removeTrack "token" "list" 0) 1000 (.ok 200), .elapse 1005]
    (p.update rob {} (.card 0 .delete)).2 =
        [.ask (.change 0 (.track first) (.removeTrack "token" "list" 0) 1000)] ∧
      q.tracks = [second, { id := "b" }] ∧
      ¬ (∀ d ∈ q.shelf.cards, d.deleted = false) ∧
      q.shelf.cards.map (fun d => (d.shown, d.deleted)) =
        [(.track second, true), (.track { id := "b" }, false)] := by
  decide +kernel

end PlaylistPage

end ListenDeck
