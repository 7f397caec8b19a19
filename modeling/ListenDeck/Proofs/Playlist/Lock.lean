import ListenDeck.Proofs.Cards.Scores
import ListenDeck.Proofs.Playlist.Overlap
import ListenDeck.Proofs.Playlist.Runs

/-!
# The removal lock

The removal buttons of a playlist page are locked from the press of one of them until its track has
left the page or the removal was refused. The card of the removal undoes the lock, and so does Open;
a card that is gone undoes nothing. A playlist that was on its way when the button was pressed can
take the card away and leave the lock behind.

* `Curation.happen`, `Curation.happens`: presses, answers of any content in any order, and time.
* `Curation.AtRest`: no removal of a mounted card waits, and no playlist is on its way.
* `Curation.Move`: all that can happen, said once (`happen_move`).
* `Curation.Tidy`: what holds of every page (`Move.tidy`).
* `Curation.Held`: where the removal is that locked the page, as long as the lock lasts
  (`Move.held`).
* `Curation.Stuck`: the lock was left behind. It stays until a playlist is on its way
  (`Move.stuck`).
* `Curation.locked_at_rest`: which removals leave the lock behind.
-/

namespace ListenDeck

/-! ## Shelves that come after one another -/

namespace Shelf

section Onward
variable {κ : Type} {s t u : Shelf κ}

/-- **A shelf comes after another one**: a card with a number that was given out by then is one of
the old cards, and no removal is new. -/
structure Onward (s t : Shelf κ) : Prop where
  numbered : t.Numbered
  mounted : s.mounted ≤ t.mounted
  old : ∀ serial, serial < s.mounted → t.isMounted serial = true → s.isMounted serial = true
  removals : ∀ r ∈ t.removals, r ∈ s.removals

theorem Numbered.isMounted_lt (h : s.Numbered) {serial : Nat} (hm : s.isMounted serial = true) :
    serial < s.mounted := by
  rw [isMounted_iff] at hm
  obtain ⟨c, hc, rfl⟩ := List.mem_map.mp hm
  exact h.lt c hc

theorem onward_of_serials (h : s.Numbered)
    (hc : t.cards.map (·.serial) = s.cards.map (·.serial)) (hm : t.mounted = s.mounted)
    (hr : ∀ r ∈ t.removals, r ∈ s.removals) : s.Onward t where
  numbered := numbered_of_serials h hc hm
  mounted := Nat.le_of_eq hm.symm
  old serial _ hserial := by
    rw [isMounted_iff] at hserial ⊢
    rwa [← hc]
  removals := hr

theorem Onward.refl (h : s.Numbered) : s.Onward s := onward_of_serials h rfl rfl fun _ hr => hr

theorem Onward.trans (h : s.Onward t) (h' : t.Onward u) : s.Onward u where
  numbered := h'.numbered
  mounted := Nat.le_trans h.mounted h'.mounted
  old serial hlt hm := h.old serial hlt (h'.old serial (Nat.lt_of_lt_of_le hlt h.mounted) hm)
  removals r hr := h.removals r (h'.removals r hr)

theorem arrange_onward [DecidableEq κ] (h : s.Numbered) (wanted : List (WantedCard κ)) :
    s.Onward (s.arrange wanted) where
  numbered := arrange_numbered h wanted
  mounted := arrange_mounted_le h wanted
  old serial hlt hm := by
    obtain ⟨-, -, hall⟩ := arrangeFrom_numbered s.mounted s.cards wanted h.nodup h.lt
    rw [isMounted_iff] at hm ⊢
    rcases (hall serial hm).2 with hnew | hold
    · omega
    · exact hold
  removals _ hr := List.mem_of_mem_filter hr

theorem due_onward (h : s.Numbered) (now : Nat) : s.Onward (s.due now).2 :=
  onward_of_serials h rfl rfl fun _ hr => List.mem_of_mem_filter hr

theorem arrange_all_new [DecidableEq κ] {wanted : List (WantedCard κ)}
    (h : ∀ c ∈ s.cards, c.key ∉ wanted.map (·.key)) :
    ∀ c ∈ (s.arrange wanted).cards, s.mounted ≤ c.serial := by
  intro c hc
  rcases s.arrange_origin wanted c hc with ⟨t, ht, -⟩ | ⟨hnew, -⟩
  · obtain ⟨hold, hwanted, hkey⟩ := takenFrom_spec t ht
    exact absurd (List.mem_map.mpr ⟨t.2, hwanted, hkey.symm⟩) (h t.1 hold)
  · exact hnew

end Onward

end Shelf

/-! ## The turns of the page that matter to the lock -/

namespace PlaylistPage

section Land
variable {p : PlaylistPage}

/-- The end of a removal's grace. -/
def land (p : PlaylistPage) (r : CardRemoval) : PlaylistPage :=
  if p.shelf.isMounted r.card then p.without r else p

theorem elapse_eq (p : PlaylistPage) (now : Nat) : p.elapse now =
    (p.shelf.due now).1.foldl land { p with shelf := (p.shelf.due now).2 } := rfl

theorem mem_due {now : Nat} {r : CardRemoval} :
    r ∈ (p.shelf.due now).1 ↔ r ∈ p.shelf.removals ∧ r.deadline ≤ now := by
  simp [Shelf.due]

theorem land_onward (h : p.shelf.Numbered) (r : CardRemoval) :
    p.shelf.Onward (p.land r).shelf ∧ (p.land r).loading = p.loading := by
  unfold land
  split_ifs
  · exact ⟨Shelf.arrange_onward h _, rfl⟩
  · exact ⟨.refl h, rfl⟩

theorem elapse_onward (h : p.shelf.Numbered) (now : Nat) :
    p.shelf.Onward (p.elapse now).shelf ∧ (p.elapse now).loading = p.loading := by
  have hfold : ∀ (due : List CardRemoval) (q : PlaylistPage), p.shelf.Onward q.shelf →
      q.loading = p.loading → p.shelf.Onward (due.foldl land q).shelf ∧
        (due.foldl land q).loading = p.loading := by
    intro due
    induction due with
    | nil => exact fun q hq hl => ⟨hq, hl⟩
    | cons r due ih =>
      intro q hq hl
      obtain ⟨honward, hloading⟩ := land_onward hq.numbered r
      exact ih _ (hq.trans honward) (hloading.trans hl)
  rw [elapse_eq]
  exact hfold _ _ (Shelf.due_onward h now) rfl

theorem foldl_land_of_gone {due : List CardRemoval}
    (h : ∀ r ∈ due, p.shelf.isMounted r.card = false) : due.foldl land p = p := by
  induction due with
  | nil => rfl
  | cons r due ih =>
    obtain ⟨hr, hdue⟩ := List.forall_mem_cons.mp h
    have hland : p.land r = p := if_neg (by simp [hr])
    rw [List.foldl_cons, hland, ih hdue]

theorem gone_of_foldl_locked {due : List CardRemoval} (h : (due.foldl land p).locked = true) :
    p.locked = true ∧ ∀ r ∈ due, p.shelf.isMounted r.card = false := by
  induction due generalizing p with
  | nil => exact ⟨h, fun r hr => absurd hr List.not_mem_nil⟩
  | cons r due ih =>
    obtain ⟨hlock, hdue⟩ := ih h
    cases hm : p.shelf.isMounted r.card with
    | true =>
      rw [land, if_pos hm] at hlock
      cases hlock
    | false =>
      have hland : p.land r = p := if_neg (by simp [hm])
      rw [hland] at hlock hdue
      exact ⟨hlock, List.forall_mem_cons.mpr ⟨hm, hdue⟩⟩

theorem elapse_of_gone (h : ∀ r ∈ p.shelf.removals, p.shelf.isMounted r.card = false) (now : Nat) :
    p.elapse now = { p with shelf := (p.shelf.due now).2 } := by
  rw [elapse_eq]
  exact foldl_land_of_gone fun r hr => h r (mem_due.mp hr).1

/-- **A page that is locked after the end of graces** has lost nothing but removals of cards that
are gone. -/
theorem elapse_of_locked {now : Nat} (h : (p.elapse now).locked = true) :
    p.locked = true ∧ p.elapse now = { p with shelf := (p.shelf.due now).2 } ∧
      ∀ r ∈ p.shelf.removals, p.shelf.isMounted r.card = true →
        r ∈ (p.elapse now).shelf.removals := by
  rw [elapse_eq] at h ⊢
  obtain ⟨hlock, hgone⟩ := gone_of_foldl_locked h
  rw [foldl_land_of_gone hgone]
  refine ⟨hlock, rfl, fun r hr hm => ?_⟩
  have hwaits : now < r.deadline := by
    rw [← Nat.not_le]
    intro hle
    have hnot : p.shelf.isMounted r.card = false := hgone r (mem_due.mpr ⟨hr, hle⟩)
    rw [hm] at hnot
    cases hnot
  exact List.mem_filter.mpr ⟨hr, decide_eq_true hwaits⟩

end Land

/-- **What the answer to a removal does**: nothing if the card is gone; else the removal waits for
its grace, or the lock is undone. -/
theorem changed_removal_cases (p : PlaylistPage) (now card : Nat) (item : Item)
    (token mbid : String) (place grace : Nat) (reply : Except ServerError Nat) :
    (p.shelf.isMounted card = false ∧
      p.changed now card item (.removeTrack token mbid place) grace reply = (p, [])) ∨
    (p.shelf.isMounted card = true ∧
      (p.changed now card item (.removeTrack token mbid place) grace reply =
        ({ p with shelf := p.shelf.arm card item.identity place (now + grace) }, []) ∨
      ∃ notice, p.changed now card item (.removeTrack token mbid place) grace reply =
        ({ p with locked := false }, [.notify notice]))) := by
  cases hm : p.shelf.isMounted card with
  | false =>
    refine .inl ⟨rfl, ?_⟩
    unfold changed Shelf.receive?
    rw [if_neg (by simp [hm])]
  | true =>
    refine .inr ⟨rfl, ?_⟩
    unfold changed Shelf.receive?
    rw [if_pos hm]
    unfold settle
    cases confirmed reply with
    | ok _ => exact .inl rfl
    | error e => exact .inr ⟨_, rfl⟩

end PlaylistPage

namespace Curation

/-! ## What happens -/

/-- What happens to a page, whatever the server holds: presses, answers and time. -/
inductive Happening where
  | press (session : Session) (settings : Settings) (button : Button)
  /-- The answer to a request for a playlist. -/
  | bring (number : Nat) (reply : Except ServerError Playlist)
  /-- The answer to a call about a track. -/
  | confirm (number : Nat) (reply : Except ServerError Nat)
  | pass (ms : Nat)

/-- The answer to a request for a playlist reaches the page, whatever the server has. -/
def bring (s : Curation) (number : Nat) (reply : Except ServerError Playlist) : Curation :=
  match s.fetches.find? (·.number = number) with
  | some f => { s with fetches := s.fetches.filter (·.number ≠ number) }.turn
      (s.page.playlistCame f.mbid reply)
  | none => s

/-- The answer to a call about a track reaches the page. -/
def confirm (s : Curation) (number : Nat) (reply : Except ServerError Nat) : Curation :=
  match s.orders.find? (·.number = number) with
  | some o => { s with orders := s.orders.filter (·.number ≠ number) }.turn
      (s.page.changed s.now o.card o.item o.mutation o.grace reply)
  | none => s

/-- What it leads to. -/
def happen (s : Curation) : Happening → Curation
  | .press session settings button => s.step (.press session settings button)
  | .bring number reply => s.bring number reply
  | .confirm number reply => s.confirm number reply
  | .pass ms => s.step (.pass ms)

/-- What a list of happenings leads to. -/
def happens (s : Curation) (hs : List Happening) : Curation := hs.foldl happen s

/-- A removal of a card waits for its answer or for its grace. -/
def Waits (s : Curation) (serial : Nat) : Prop :=
  (∃ o ∈ s.orders, o.card = serial) ∨ ∃ r ∈ s.page.shelf.removals, r.card = serial

/-- **A page is at rest**: no playlist is on its way, and no removal of a mounted card waits. -/
def AtRest (s : Curation) : Prop := ¬ s.Loading ∧ ∀ c ∈ s.page.shelf.cards, ¬ s.Waits c.serial

/-- **A removal locks the page while a playlist is on its way.** -/
def LocksLate (s : Curation) (h : Happening) : Prop :=
  s.Loading ∧ s.page.locked = false ∧ (s.happen h).page.locked = true

instance (s : Curation) (serial : Nat) : Decidable (s.Waits serial) :=
  inferInstanceAs (Decidable
    ((∃ o ∈ s.orders, o.card = serial) ∨ ∃ r ∈ s.page.shelf.removals, r.card = serial))

instance (s : Curation) : Decidable s.AtRest :=
  inferInstanceAs (Decidable (¬ s.Loading ∧ ∀ c ∈ s.page.shelf.cards, ¬ s.Waits c.serial))

instance (s : Curation) (h : Happening) : Decidable (s.LocksLate h) :=
  inferInstanceAs (Decidable
    (s.Loading ∧ s.page.locked = false ∧ (s.happen h).page.locked = true))

theorem happens_append (s : Curation) (hs hs' : List Happening) :
    s.happens (hs ++ hs') = (s.happens hs).happens hs' := List.foldl_append

theorem happens_concat (s : Curation) (hs : List Happening) (h : Happening) :
    s.happens (hs ++ [h]) = (s.happens hs).happen h := s.happens_append hs [h]

theorem AtRest.not_waits {s : Curation} (h : s.AtRest) {serial : Nat}
    (hm : s.page.shelf.isMounted serial = true) : ¬ s.Waits serial := by
  rw [Shelf.isMounted_iff] at hm
  obtain ⟨c, hc, rfl⟩ := List.mem_map.mp hm
  exact h.2 c hc

/-! ## What can happen, said once -/

/-- **What can happen to a page**: all that matters to the lock. -/
inductive Move (s : Curation) : Curation → Prop
  | idle : Move s s
  | typed (text : String) : Move s { s with page := { s.page with field := text } }
  /-- Open asks for a playlist and undoes the lock. -/
  | opened (mbid : String) (hl : s.page.loading = false) : Move s { s with
      page := { s.page with loading := true, locked := false }
      fetches := s.fetches ++ [{ number := s.requests, mbid }]
      requests := s.requests + 1 }
  /-- A removal is asked for and locks the page. -/
  | asked (o : Order) (hn : o.number = s.requests) (hlock : s.page.locked = false)
      (hm : s.page.shelf.isMounted o.card = true)
      (hr : ∃ token mbid place, o.mutation = .removeTrack token mbid place) : Move s { s with
      page := { s.page with locked := true }
      orders := s.orders ++ [o]
      requests := s.requests + 1 }
  /-- A playlist comes and brings its cards. -/
  | came (f : Fetch) (hf : f ∈ s.fetches) (l : Playlist) : Move s { s with
      page := { s.page with playlist := some l, loading := false }.arranged
      fetches := s.fetches.filter (·.number ≠ f.number) }
  /-- A playlist does not come. -/
  | failed (f : Fetch) (hf : f ∈ s.fetches) : Move s { s with
      page := { s.page with loading := false }
      fetches := s.fetches.filter (·.number ≠ f.number) }
  /-- An answer to a card that is gone. -/
  | missed (o : Order) (ho : o ∈ s.orders) (hm : s.page.shelf.isMounted o.card = false) :
      Move s { s with orders := s.orders.filter (·.number ≠ o.number) }
  /-- A removal was carried out and waits for its grace. -/
  | armed (o : Order) (ho : o ∈ s.orders) (hm : s.page.shelf.isMounted o.card = true)
      (identity : Identity) (place deadline : Nat) : Move s { s with
      page := { s.page with shelf := s.page.shelf.arm o.card identity place deadline }
      orders := s.orders.filter (·.number ≠ o.number) }
  /-- A removal was refused, which undoes the lock. -/
  | refused (o : Order) (ho : o ∈ s.orders) (hm : s.page.shelf.isMounted o.card = true) :
      Move s { s with
      page := { s.page with locked := false }
      orders := s.orders.filter (·.number ≠ o.number) }
  | passed (now : Nat) : Move s { s with now, page := s.page.elapse now }

/-- The call is a removal, and its number and the number of its card were given out. -/
structure Known (s : Curation) (o : Order) : Prop where
  number : o.number < s.requests
  card : o.card < s.page.shelf.mounted
  removes : ∃ token mbid place, o.mutation = .removeTrack token mbid place

/-- **What holds of every page**: cards, removals and calls have numbers that were given out, every
call has a number of its own, and one playlist at most is on its way. -/
structure Tidy (s : Curation) : Prop where
  numbered : s.page.shelf.Numbered
  orders : ∀ o ∈ s.orders, s.Known o
  removals : ∀ r ∈ s.page.shelf.removals, r.card < s.page.shelf.mounted
  apart : (s.orders.map (·.number)).Nodup
  single : s.fetches.length ≤ 1
  loading : s.page.loading = false → s.fetches = []

section Move
variable {s s' : Curation}

theorem press_move (s : Curation) (session : Session) (settings : Settings) (button : Button) :
    s.Move (s.happen (.press session settings button)) := by
  cases button with
  | type text => exact .typed text
  | «open» =>
    show s.Move (s.turn (s.page.load s.page.field))
    rcases s.page.load_cases s.page.field with hload | ⟨hl, hload⟩ <;> rw [hload]
    · exact .idle
    · exact .opened _ hl
  | remove serial =>
    show s.Move (s.turn (s.page.remove session settings serial))
    rcases s.page.remove_cases session settings serial with
      hremove | ⟨c, token, hlock, hc, -, hremove⟩ <;> rw [hremove]
    · exact .idle
    · exact .asked ⟨s.requests, serial, c.shown, _, _, none⟩ rfl hlock
        (Shelf.isMounted_of_find? _ hc) ⟨_, _, _, rfl⟩

theorem bring_move (s : Curation) (number : Nat) (reply : Except ServerError Playlist) :
    s.Move (s.bring number reply) := by
  unfold bring
  split
  case h_1 f hfind =>
    have hf : f ∈ s.fetches := List.mem_of_find?_eq_some hfind
    obtain rfl : f.number = number := by simpa using List.find?_some hfind
    cases reply with
    | ok l => exact .came f hf l
    | error e => exact .failed f hf
  case h_2 => exact .idle

theorem confirm_move (h : s.Tidy) (number : Nat) (reply : Except ServerError Nat) :
    s.Move (s.confirm number reply) := by
  unfold confirm
  split
  case h_1 o hfind =>
    have ho : o ∈ s.orders := List.mem_of_find?_eq_some hfind
    obtain rfl : o.number = number := by simpa using List.find?_some hfind
    obtain ⟨token, mbid, place, hm⟩ := (h.orders o ho).removes
    rw [hm]
    rcases s.page.changed_removal_cases s.now o.card o.item token mbid place o.grace reply with
      ⟨hgone, hchanged⟩ | ⟨hmounted, hchanged | ⟨notice, hchanged⟩⟩ <;> rw [hchanged]
    · exact .missed o ho hgone
    · exact .armed o ho hmounted _ _ _
    · exact .refused o ho hmounted
  case h_2 => exact .idle

/-- **Nothing else can happen.** -/
theorem happen_move (h : s.Tidy) (e : Happening) : s.Move (s.happen e) := by
  cases e with
  | press session settings button => exact s.press_move session settings button
  | bring number reply => exact s.bring_move number reply
  | confirm number reply => exact confirm_move h number reply
  | pass ms => exact .passed (s.now + ms)

/-! ## What holds of every page -/

theorem Known.mono {o : Order} (h : s.Known o) (hreq : s.requests ≤ s'.requests)
    (hmounted : s.page.shelf.mounted ≤ s'.page.shelf.mounted) : s'.Known o :=
  ⟨Nat.lt_of_lt_of_le h.number hreq, Nat.lt_of_lt_of_le h.card hmounted, h.removes⟩

theorem Tidy.waits_lt (h : s.Tidy) {serial : Nat} (hw : s.Waits serial) :
    serial < s.page.shelf.mounted := by
  rcases hw with ⟨o, ho, rfl⟩ | ⟨r, hr, rfl⟩
  · exact (h.orders o ho).card
  · exact h.removals r hr

/-- Whatever asks for no removal and arms none leaves a page tidy. -/
theorem Tidy.onward (h : s.Tidy) (hshelf : s.page.shelf.Onward s'.page.shelf)
    (ho : s'.orders.Sublist s.orders) (hreq : s.requests ≤ s'.requests)
    (hsingle : s'.fetches.length ≤ 1) (hload : s'.page.loading = false → s'.fetches = []) :
    s'.Tidy where
  numbered := hshelf.numbered
  orders o hmem := (h.orders o (ho.subset hmem)).mono hreq hshelf.mounted
  removals r hr := Nat.lt_of_lt_of_le (h.removals r (hshelf.removals r hr)) hshelf.mounted
  apart := h.apart.sublist (ho.map _)
  single := hsingle
  loading := hload

theorem Tidy.fetches_left (h : s.Tidy) {f : Fetch} (hf : f ∈ s.fetches) :
    s.fetches.filter (·.number ≠ f.number) = [] := by
  obtain ⟨g, hg⟩ : ∃ g, s.fetches = [g] :=
    List.length_eq_one_iff.mp (Nat.le_antisymm h.single (List.length_pos_of_mem hf))
  rw [hg, List.mem_singleton] at hf
  simp [hg, hf]

theorem Tidy.eq_of_number (h : s.Tidy) {o o' : Order} (ho : o ∈ s.orders) (ho' : o' ∈ s.orders)
    (hn : o.number = o'.number) : o = o' := List.inj_on_of_nodup_map h.apart ho ho' hn

theorem Tidy.asked (h : s.Tidy) {o : Order} (hn : o.number = s.requests)
    (hm : s.page.shelf.isMounted o.card = true)
    (hr : ∃ token mbid place, o.mutation = .removeTrack token mbid place) :
    Tidy { s with
      page := { s.page with locked := true }
      orders := s.orders ++ [o]
      requests := s.requests + 1 } := by
  refine ⟨h.numbered, fun o' ho' => ?_, h.removals, ?_, h.single, h.loading⟩
  · rcases List.mem_append.mp ho' with ho' | ho'
    · exact (h.orders o' ho').mono (Nat.le_succ _) (Nat.le_refl _)
    · obtain rfl := List.mem_singleton.mp ho'
      exact ⟨Nat.lt_succ_of_le (Nat.le_of_eq hn), h.numbered.isMounted_lt hm, hr⟩
  · rw [List.map_append, List.nodup_append]
    refine ⟨h.apart, List.nodup_singleton _, fun n hmem n' hmem' => ?_⟩
    obtain ⟨o', ho', rfl⟩ := List.mem_map.mp hmem
    obtain rfl := List.mem_singleton.mp hmem'
    show o'.number ≠ o.number
    rw [hn]
    exact Nat.ne_of_lt (h.orders o' ho').number

theorem Tidy.armed (h : s.Tidy) {o : Order} (ho : o ∈ s.orders) (identity : Identity)
    (place deadline : Nat) :
    Tidy { s with
      page := { s.page with shelf := s.page.shelf.arm o.card identity place deadline }
      orders := s.orders.filter (·.number ≠ o.number) } := by
  refine ⟨Shelf.arm_numbered h.numbered _ _ _ _, fun o' ho' => ?_, fun r hr => ?_,
    h.apart.sublist (List.filter_sublist.map _), h.single, h.loading⟩
  · exact (h.orders o' (List.mem_of_mem_filter ho')).mono (Nat.le_refl _) (Nat.le_refl _)
  · rcases List.mem_append.mp hr with hr | hr
    · exact h.removals r hr
    · obtain rfl := List.mem_singleton.mp hr
      exact (h.orders o ho).card

/-- **Whatever happens leaves a page tidy.** -/
theorem Move.tidy (h : s.Tidy) (hmove : s.Move s') : s'.Tidy := by
  have hrefl : s.page.shelf.Onward s.page.shelf := .refl h.numbered
  have hfew : ∀ number, (s.fetches.filter (·.number ≠ number)).length ≤ 1 := fun _ =>
    Nat.le_trans (List.length_filter_le _ _) h.single
  cases hmove with
  | idle => exact h
  | typed text => exact h.onward hrefl (.refl _) (Nat.le_refl _) h.single h.loading
  | opened mbid hl =>
    refine h.onward hrefl (.refl _) (Nat.le_succ _) ?_ fun hnot => by cases hnot
    simp [h.loading hl]
  | asked o hn hlock hm hr => exact h.asked hn hm hr
  | came f hf l =>
    exact h.onward (Shelf.arrange_onward h.numbered _) (.refl _) (Nat.le_refl _) (hfew _) fun _ =>
      h.fetches_left hf
  | failed f hf =>
    exact h.onward hrefl (.refl _) (Nat.le_refl _) (hfew _) fun _ => h.fetches_left hf
  | missed o ho hm =>
    exact h.onward hrefl List.filter_sublist (Nat.le_refl _) h.single h.loading
  | armed o ho hm identity place deadline => exact h.armed ho identity place deadline
  | refused o ho hm =>
    exact h.onward hrefl List.filter_sublist (Nat.le_refl _) h.single h.loading
  | passed now =>
    obtain ⟨honward, hloading⟩ := PlaylistPage.elapse_onward h.numbered now
    exact h.onward honward (.refl _) (Nat.le_refl _) h.single fun hl =>
      h.loading (hloading.symm.trans hl)

/-! ## Where the removal is that holds the lock -/

/-- **The removal of a card holds the lock**: as long as the card is mounted, the removal waits, and
the card stays mounted unless a playlist was on its way when the lock was set. -/
structure Held (s : Curation) (serial : Nat) (late : Prop) : Prop where
  locked : s.page.locked = true
  given : serial < s.page.shelf.mounted
  waits : s.page.shelf.isMounted serial = true → s.Waits serial
  kept : ¬ late → ¬ s.Loading ∧ s.page.shelf.isMounted serial = true

theorem turn_page (s : Curation) (t : PageTurn PlaylistPage) : (s.turn t).page = t.1 := by
  obtain ⟨page, effects⟩ := t
  have hfold : ∀ (s : Curation), (effects.foldl ask s).page = s.page := by
    induction effects with
    | nil => exact fun _ => rfl
    | cons effect rest ih =>
      intro s
      rw [List.foldl_cons, ih]
      unfold ask
      split <;> rfl
  exact hfold _

theorem bring_locked {number : Nat} {reply : Except ServerError Playlist}
    (h : (s.bring number reply).page.locked = true) : s.page.locked = true := by
  unfold bring at h
  split at h
  · rw [turn_page] at h
    cases reply <;> exact h
  · exact h

theorem confirm_locked {number : Nat} {reply : Except ServerError Nat}
    (h : (s.confirm number reply).page.locked = true) : s.page.locked = true := by
  unfold confirm at h
  split at h
  · rw [turn_page] at h
    unfold PlaylistPage.changed at h
    split at h
    case h_1 => exact h
    case h_2 settlement shelf effects hreceive =>
      cases settlement with
      | armed identity => exact h
      | _ => cases h
  · exact h

theorem held_of_asked (h : s.page.shelf.Numbered) {o : Order}
    (hm : s.page.shelf.isMounted o.card = true) :
    Held { s with
      page := { s.page with locked := true }
      orders := s.orders ++ [o]
      requests := s.requests + 1 } o.card s.Loading where
  locked := rfl
  given := h.isMounted_lt hm
  waits _ := .inl ⟨o, List.mem_append_right _ (List.mem_singleton_self o), rfl⟩
  kept hnot := ⟨hnot, hm⟩

/-- Unlocked pages are locked by the removal button of a card alone. -/
theorem held_of_locks (h : s.page.shelf.Numbered) {e : Happening} (hlock : s.page.locked = false)
    (hlocks : (s.happen e).page.locked = true) :
    ∃ session settings serial, e = .press session settings (.remove serial) ∧
      (s.happen e).Held serial s.Loading := by
  cases e with
  | press session settings button =>
    cases button with
    | type text => exact absurd (hlock.symm.trans hlocks) Bool.false_ne_true
    | «open» =>
      have hpress : s.happen (.press session settings .open) =
        s.turn (s.page.load s.page.field) := rfl
      rw [hpress] at hlocks
      rcases s.page.load_cases s.page.field with hload | ⟨-, hload⟩ <;> rw [hload] at hlocks
      · exact absurd (hlock.symm.trans hlocks) Bool.false_ne_true
      · cases hlocks
    | remove serial =>
      have hpress : s.happen (.press session settings (.remove serial)) =
        s.turn (s.page.remove session settings serial) := rfl
      rw [hpress] at hlocks ⊢
      rcases s.page.remove_cases session settings serial with
        hremove | ⟨c, token, -, hc, -, hremove⟩ <;> rw [hremove] at hlocks ⊢
      · exact absurd (hlock.symm.trans hlocks) Bool.false_ne_true
      · exact ⟨session, settings, serial, rfl, held_of_asked (s := s)
          (o := ⟨s.requests, serial, c.shown, _, _, none⟩) h (Shelf.isMounted_of_find? _ hc)⟩
  | bring number reply => exact absurd (hlock.symm.trans (bring_locked hlocks)) Bool.false_ne_true
  | confirm number reply =>
    exact absurd (hlock.symm.trans (confirm_locked hlocks)) Bool.false_ne_true
  | pass ms =>
    exact absurd (hlock.symm.trans (PlaylistPage.elapse_of_locked hlocks).1) Bool.false_ne_true

theorem Move.same_of_locks (hmove : s.Move s') (hnot : s.page.locked = false)
    (hlock : s'.page.locked = true) :
    s'.page.shelf.cards = s.page.shelf.cards ∧ s'.fetches = s.fetches := by
  cases hmove with
  | asked o hn hl hm hr => exact ⟨rfl, rfl⟩
  | passed now =>
    exact absurd (hnot.symm.trans (PlaylistPage.elapse_of_locked hlock).1) Bool.false_ne_true
  | opened mbid hl => cases hlock
  | refused o ho hm => cases hlock
  | _ => exact absurd (hnot.symm.trans hlock) Bool.false_ne_true

section Held
variable {serial : Nat} {late : Prop}

theorem Held.came (h : s.Tidy) (hheld : s.Held serial late) {f : Fetch} (hf : f ∈ s.fetches)
    (l : Playlist) :
    Held { s with
      page := { s.page with playlist := some l, loading := false }.arranged
      fetches := s.fetches.filter (·.number ≠ f.number) } serial late := by
  have honward := Shelf.arrange_onward h.numbered
    ({ s.page with playlist := some l, loading := false } : PlaylistPage).wanted
  refine ⟨hheld.locked, Nat.lt_of_lt_of_le hheld.given honward.mounted, fun hm => ?_,
    fun hnot => absurd (List.ne_nil_of_mem hf) (hheld.kept hnot).1⟩
  rcases hheld.waits (honward.old serial hheld.given hm) with ho | ⟨r, hr, rfl⟩
  · exact .inl ho
  · exact .inr ⟨r, List.mem_filter.mpr ⟨hr, hm⟩, rfl⟩

theorem Held.missed (h : s.Tidy) (hheld : s.Held serial late) {o : Order} (ho : o ∈ s.orders)
    (hgone : s.page.shelf.isMounted o.card = false) :
    Held { s with orders := s.orders.filter (·.number ≠ o.number) } serial late := by
  refine ⟨hheld.locked, hheld.given, fun hm => (hheld.waits hm).imp_left ?_, hheld.kept⟩
  rintro ⟨o', ho', rfl⟩
  refine ⟨o', List.mem_filter.mpr ⟨ho', decide_eq_true fun hn => ?_⟩, rfl⟩
  rw [h.eq_of_number ho' ho hn, hgone] at hm
  cases hm

/-- The removal of the card waits for its answer until then, and for its grace from then on. -/
theorem Held.armed (h : s.Tidy) (hheld : s.Held serial late) {o : Order} (ho : o ∈ s.orders)
    (identity : Identity) (place deadline : Nat) :
    Held { s with
      page := { s.page with shelf := s.page.shelf.arm o.card identity place deadline }
      orders := s.orders.filter (·.number ≠ o.number) } serial late := by
  have hcards : (s.page.shelf.arm o.card identity place deadline).isMounted serial =
      s.page.shelf.isMounted serial := by
    rw [Bool.eq_iff_iff, Shelf.isMounted_iff, Shelf.isMounted_iff, Shelf.arm_map _ fun _ => rfl]
  refine ⟨hheld.locked, hheld.given, fun hm => ?_, fun hnot => ?_⟩
  · rcases hheld.waits (hcards.symm.trans hm) with ⟨o', ho', rfl⟩ | ⟨r, hr, rfl⟩
    · by_cases hn : o'.number = o.number
      · rw [h.eq_of_number ho' ho hn]
        exact .inr ⟨_, List.mem_append_right _ (List.mem_singleton_self _), rfl⟩
      · exact .inl ⟨o', List.mem_filter.mpr ⟨ho', decide_eq_true hn⟩, rfl⟩
    · exact .inr ⟨r, List.mem_append_left _ hr, rfl⟩
  · exact ⟨(hheld.kept hnot).1, hcards.trans (hheld.kept hnot).2⟩

theorem Held.passed (h : s.Tidy) (hheld : s.Held serial late) {now : Nat}
    (hlock : (s.page.elapse now).locked = true) :
    Held { s with now, page := s.page.elapse now } serial late := by
  obtain ⟨-, hsame, hleft⟩ := PlaylistPage.elapse_of_locked hlock
  have hcards : (s.page.elapse now).shelf.isMounted serial = s.page.shelf.isMounted serial := by
    rw [hsame]
    rfl
  have hmounted := (PlaylistPage.elapse_onward h.numbered now).1.mounted
  refine ⟨hlock, Nat.lt_of_lt_of_le hheld.given hmounted, fun hm => ?_, fun hnot =>
    ⟨(hheld.kept hnot).1, hcards.trans (hheld.kept hnot).2⟩⟩
  have hm' := hcards.symm.trans hm
  rcases hheld.waits hm' with ho | ⟨r, hr, rfl⟩
  · exact .inl ho
  · exact .inr ⟨r, hleft r hr hm', rfl⟩

/-- **The lock stays with the removal that set it.** -/
theorem Move.held (h : s.Tidy) (hheld : s.Held serial late) (hmove : s.Move s')
    (hlock : s'.page.locked = true) : s'.Held serial late := by
  cases hmove with
  | idle => exact hheld
  | typed text => exact ⟨hheld.locked, hheld.given, hheld.waits, hheld.kept⟩
  | opened mbid hl => cases hlock
  | asked o hn hnot hm hr => exact absurd (hnot.symm.trans hheld.locked) Bool.false_ne_true
  | came f hf l => exact hheld.came h hf l
  | failed f hf =>
    exact ⟨hheld.locked, hheld.given, hheld.waits, fun hnot =>
      absurd (List.ne_nil_of_mem hf) (hheld.kept hnot).1⟩
  | missed o ho hgone => exact hheld.missed h ho hgone
  | armed o ho hm identity place deadline => exact hheld.armed h ho identity place deadline
  | refused o ho hm => cases hlock
  | passed now => exact hheld.passed h hlock

end Held

/-! ## Pages that stay locked -/

/-- **The lock is left behind**: the page is locked, and nothing waits that could undo it. -/
def Stuck (s : Curation) : Prop := s.AtRest ∧ s.page.locked = true

instance (s : Curation) : Decidable s.Stuck :=
  inferInstanceAs (Decidable (s.AtRest ∧ s.page.locked = true))

/-- **A lock that was left behind stays** until a playlist is on its way again. -/
theorem Move.stuck (h : s.Stuck) (hmove : s.Move s') (hload : ¬ s'.Loading) : s'.Stuck := by
  obtain ⟨hrest, hlock⟩ := h
  cases hmove with
  | idle => exact ⟨hrest, hlock⟩
  | typed text => exact ⟨hrest, hlock⟩
  | opened mbid hl =>
    exact absurd (List.append_ne_nil_of_right_ne_nil _ (List.cons_ne_nil _ _)) hload
  | asked o hn hnot hm hr => exact absurd (hnot.symm.trans hlock) Bool.false_ne_true
  | came f hf l => exact absurd (List.ne_nil_of_mem hf) hrest.1
  | failed f hf => exact absurd (List.ne_nil_of_mem hf) hrest.1
  | missed o ho hgone =>
    refine ⟨⟨hrest.1, fun c hc hw => hrest.2 c hc (hw.imp_left ?_)⟩, hlock⟩
    rintro ⟨o', ho', hcard⟩
    exact ⟨o', List.mem_of_mem_filter ho', hcard⟩
  | armed o ho hm => exact absurd (.inl ⟨o, ho, rfl⟩) (hrest.not_waits hm)
  | refused o ho hm => exact absurd (.inl ⟨o, ho, rfl⟩) (hrest.not_waits hm)
  | passed now =>
    have hgone : ∀ r ∈ s.page.shelf.removals, s.page.shelf.isMounted r.card = false := fun r hr =>
      Bool.eq_false_iff.mpr fun hm => hrest.not_waits hm (.inr ⟨r, hr, rfl⟩)
    rw [PlaylistPage.elapse_of_gone hgone]
    refine ⟨⟨hrest.1, fun c hc hw => hrest.2 c hc (hw.imp_right ?_)⟩, hlock⟩
    rintro ⟨r, hr, hcard⟩
    exact ⟨r, List.mem_of_mem_filter hr, hcard⟩

/-- **A playlist of other tracks leaves the lock behind.** -/
theorem bring_stuck (h : s.Tidy) (hlock : s.page.locked = true) {f : Fetch} (hf : f ∈ s.fetches)
    {l : Playlist} (hnew : ∀ c ∈ s.page.shelf.cards, c.key ∉ trackKeys l.tracks) :
    (s.bring f.number (.ok l)).Stuck := by
  obtain ⟨f', hfind⟩ : ∃ f', s.fetches.find? (·.number = f.number) = some f' :=
    Option.isSome_iff_exists.mp (List.find?_isSome.mpr ⟨f, hf, decide_eq_true rfl⟩)
  unfold bring
  rw [hfind]
  refine ⟨⟨fun hnot => hnot (h.fetches_left hf), fun c hc hw => ?_⟩, hlock⟩
  have hold : c.serial < s.page.shelf.mounted := h.waits_lt <| hw.imp_right fun ⟨r, hr, hcard⟩ =>
    ⟨r, List.mem_of_mem_filter hr, hcard⟩
  have hfresh : s.page.shelf.mounted ≤ c.serial := by
    refine Shelf.arrange_all_new (fun d hd => ?_) c hc
    rw [PlaylistPage.wanted_keys]
    exact hnew d hd
  omega

/-- At rest, the card of the removal that holds the lock is gone, and a playlist was on its way when
the lock was set. -/
theorem Held.late_of_rest {serial : Nat} {late : Prop} (h : s.Held serial late) (hrest : s.AtRest) :
    late ∧ s.page.shelf.isMounted serial = false := by
  have hgone : s.page.shelf.isMounted serial = false :=
    Bool.eq_false_iff.mpr fun hm => hrest.not_waits hm (h.waits hm)
  refine ⟨by_contra fun hnot => ?_, hgone⟩
  rw [(h.kept hnot).2] at hgone
  cases hgone

end Move

/-! ## The lock of a page at rest -/

theorem start_tidy (settings : Settings) (lists : String → Playlist) :
    (start settings lists).Tidy := by
  have hempty : Tidy { page := { field := settings.lastPlaylist.getD "" }, lists } :=
    ⟨⟨List.nodup_nil, fun c hc => absurd hc List.not_mem_nil⟩,
      fun o ho => absurd ho List.not_mem_nil, fun r hr => absurd hr List.not_mem_nil,
      List.nodup_nil, Nat.zero_le 1, fun _ => rfl⟩
  unfold start PlaylistPage.start
  rcases PlaylistPage.load_cases { field := settings.lastPlaylist.getD "" }
    (settings.lastPlaylist.getD "") with hsame | ⟨hl, hload⟩
  · rw [hsame]; exact hempty
  · rw [hload]; exact Move.tidy hempty (.opened _ hl)

theorem happens_tidy {s : Curation} (h : s.Tidy) (hs : List Happening) : (s.happens hs).Tidy := by
  induction hs generalizing s with
  | nil => exact h
  | cons e hs ih => exact ih ((happen_move h e).tidy h)

theorem happens_stuck {s : Curation} (h : s.Tidy) (hstuck : s.Stuck) {after : List Happening}
    (hload : ∀ part, part <+: after → ¬ (s.happens part).Loading) : (s.happens after).Stuck := by
  induction after using List.reverseRecOn with
  | nil => exact hstuck
  | append_singleton part e ih =>
    have hpart : (s.happens part).Stuck :=
      ih fun part' hpart => hload part' (hpart.trans (List.prefix_append part [e]))
    have hnot := hload _ (List.prefix_refl _)
    rw [happens_concat] at hnot ⊢
    exact (happen_move (happens_tidy h part) e).stuck hpart hnot

/-- **A locked page was locked by one removal**, which has held the lock ever since. -/
theorem held_of_locked {s : Curation} (h : s.Tidy) (hunlocked : s.page.locked = false)
    {hs : List Happening} (hlock : (s.happens hs).page.locked = true) :
    ∃ before session settings serial after,
      hs = before ++ .press session settings (.remove serial) :: after ∧
      (s.happens before).page.locked = false ∧
      (∀ part, part <+: after → (s.happens
        (before ++ .press session settings (.remove serial) :: part)).page.locked = true) ∧
      (s.happens hs).Held serial (s.happens before).Loading := by
  induction hs using List.reverseRecOn with
  | nil => exact absurd (hunlocked.symm.trans hlock) Bool.false_ne_true
  | append_singleton hs e ih =>
    have htidy := happens_tidy h hs
    cases hbefore : (s.happens hs).page.locked with
    | false =>
      have hlocks := hlock
      rw [happens_concat] at hlocks
      obtain ⟨session, settings, serial, rfl, hheld⟩ :=
        held_of_locks htidy.numbered hbefore hlocks
      refine ⟨hs, session, settings, serial, [], rfl, hbefore, fun part hpart => ?_, ?_⟩
      · rw [List.prefix_nil.mp hpart]
        exact hlock
      · rw [happens_concat]
        exact hheld
    | true =>
      obtain ⟨before, session, settings, serial, after, rfl, hnot, hsince, hheld⟩ := ih hbefore
      refine ⟨before, session, settings, serial, after ++ [e], by simp, hnot, fun part hpart => ?_,
        ?_⟩
      · rcases List.prefix_concat_iff.mp hpart with rfl | hpart
        · simpa using hlock
        · exact hsince part hpart
      · rw [happens_concat] at hlock ⊢
        exact (happen_move htidy e).held htidy hheld hlock

theorem start_unlocked (settings : Settings) (lists : String → Playlist) :
    (start settings lists).page.locked = false := by
  unfold start PlaylistPage.start
  rw [turn_page]
  rcases PlaylistPage.load_cases { field := settings.lastPlaylist.getD "" }
    (settings.lastPlaylist.getD "") with hsame | ⟨-, hload⟩
  · rw [hsame]
  · rw [hload]

/-- **A page at rest is locked exactly if** the removal that locked it was asked for while a
playlist was on its way, has held the lock ever since, and its card is gone. **Each such removal can
leave the lock behind**: any playlist without the tracks of the cards does it, and the page stays
locked, with nothing under way, until a playlist is on its way again. -/
theorem locked_at_rest (settings : Settings) (lists : String → Playlist) (hs : List Happening) :
    (((start settings lists).happens hs).AtRest →
      (((start settings lists).happens hs).page.locked = true ↔
        ∃ before session current serial after,
          hs = before ++ .press session current (.remove serial) :: after ∧
          ((start settings lists).happens before).LocksLate
            (.press session current (.remove serial)) ∧
          (∀ part, part <+: after → ((start settings lists).happens
            (before ++ .press session current (.remove serial) :: part)).page.locked = true) ∧
          ((start settings lists).happens hs).page.shelf.isMounted serial = false)) ∧
    ∀ e, ((start settings lists).happens hs).LocksLate e →
      ∀ f ∈ ((start settings lists).happens hs).fetches, ∀ l : Playlist,
      (∀ c ∈ ((start settings lists).happens hs).page.shelf.cards, c.key ∉ trackKeys l.tracks) →
      ∀ after, (∀ part, part <+: after → ¬ ((start settings lists).happens
        (hs ++ e :: .bring f.number (.ok l) :: part)).Loading) →
      ((start settings lists).happens (hs ++ e :: .bring f.number (.ok l) :: after)).Stuck := by
  have htidy := happens_tidy (start_tidy settings lists) hs
  refine ⟨fun hrest => ⟨fun hlock => ?_, ?_⟩, fun e hlate f hf l hnew after hload => ?_⟩
  · obtain ⟨before, session, current, serial, after, rfl, hnot, hsince, hheld⟩ :=
      held_of_locked (start_tidy settings lists) (start_unlocked settings lists) hlock
    obtain ⟨hlate, hgone⟩ := hheld.late_of_rest hrest
    have hlocks := hsince [] (List.nil_prefix)
    rw [happens_concat] at hlocks
    exact ⟨before, session, current, serial, after, rfl, ⟨hlate, hnot, hlocks⟩, hsince, hgone⟩
  · rintro ⟨before, session, current, serial, after, rfl, -, hsince, -⟩
    exact hsince after (List.prefix_refl after)
  · obtain ⟨-, hnot, hlocks⟩ := hlate
    have hmove := happen_move htidy e
    obtain ⟨hcards, hfetches⟩ := hmove.same_of_locks hnot hlocks
    have hstuck : ((((start settings lists).happens hs).happen e).bring f.number (.ok l)).Stuck :=
      bring_stuck (hmove.tidy htidy) hlocks (hfetches ▸ hf) (hcards ▸ hnew)
    simp only [happens_append] at hload ⊢
    exact happens_stuck ((bring_move _ f.number (.ok l)).tidy (hmove.tidy htidy)) hstuck hload

/-- A playlist is opened again, and the button of its first track is pressed before the playlist
comes, with another track by then: it leaves the lock behind, which stays when the removal is
answered. -/
theorem locked_at_rest_of_other_track :
    let rob : Session := ⟨"https://localhost", some { name := "rob", authToken := "token" }⟩
    let s := start { lastPlaylist := some "list" } fun mbid => { mbid }
    let hs : List Happening := [.bring 0 (.ok
      { mbid := "list", creator := "rob", tracks := [{ id := "a" }, { id := "b" }] }),
      .press rob {} .open]
    let after : List Happening := [
      .bring 1 (.ok { mbid := "list", creator := "rob", tracks := [{ id := "c" }] }),
      .confirm 2 (.ok statusOk)]
    (s.happens hs).LocksLate (.press rob {} (.remove 0)) ∧
      (s.happens (hs ++ .press rob {} (.remove 0) :: after)).Stuck ∧
      ∃ before session current serial later,
        hs ++ .press rob {} (.remove 0) :: after =
          before ++ .press session current (.remove serial) :: later ∧
        (s.happens before).LocksLate (.press session current (.remove serial)) := by
  intro rob s hs after
  have hlate : (s.happens hs).LocksLate (.press rob {} (.remove 0)) := by decide +kernel
  have hany : (s.happens hs).fetches.any (·.number = 1) = true := by decide +kernel
  obtain ⟨f, hf, hnumber⟩ := List.any_eq_true.mp hany
  have hload : ∀ part, part <+: [Happening.confirm 2 (.ok statusOk)] → ¬ (s.happens
      (hs ++ .press rob {} (.remove 0) :: .bring f.number (.ok
        { mbid := "list", creator := "rob", tracks := [{ id := "c" }] }) :: part)).Loading := by
    rw [of_decide_eq_true hnumber]
    intro part hpart
    rcases List.prefix_concat_iff.mp (show part <+: [] ++ [_] from hpart) with rfl | hpart
    · decide +kernel
    · rw [List.prefix_nil.mp hpart]
      decide +kernel
  have hstuck := (locked_at_rest { lastPlaylist := some "list" } (fun mbid => { mbid }) hs).2 _
    hlate f hf { mbid := "list", creator := "rob", tracks := [{ id := "c" }] } (by decide +kernel)
    [.confirm 2 (.ok statusOk)] hload
  rw [of_decide_eq_true hnumber] at hstuck
  obtain ⟨before, session, current, serial, later, heq, hbefore, -⟩ :=
    ((locked_at_rest { lastPlaylist := some "list" } (fun mbid => { mbid })
      (hs ++ .press rob {} (.remove 0) :: after)).1 hstuck.1).mp hstuck.2
  exact ⟨hlate, hstuck, before, session, current, serial, later, heq, hbefore⟩

/-- **A lock that nothing undoes.** -/
theorem lock_left_behind :
    let rob : Session := ⟨"https://localhost", some { name := "rob", authToken := "token" }⟩
    let s := (start { lastPlaylist := some "list" } fun mbid => { mbid }).happens
      [.bring 0 (.ok
          { mbid := "list", creator := "rob", tracks := [{ id := "a" }, { id := "b" }] }),
        .press rob {} .open, .press rob {} (.remove 0),
        .bring 1 (.ok { mbid := "list", creator := "rob", tracks := [{ id := "b" }] }),
        .confirm 2 (.ok statusOk)]
    s.AtRest ∧ s.orders.length = 0 ∧ s.page.shelf.cards.map (·.key) = ["b#1"] ∧
      ¬ s.page.locked = false := by
  decide +kernel

end Curation

end ListenDeck
