import ListenDeck.Proofs.Browse.Served

/-!
# The window that is shown

What a pager shows of a list that does not change.

* `Pager.Shows`: the page is one of the pages of the list, and the items are its window.
* `Pager.Safe`: a turn shows a page of the list, does not come to an empty page, and fetches a page
  that begins inside the list, if any (`asked_safe`, `fail_safe`, `display_safe`,
  `displayFirst_safe`).
* `Served.Shown`: the list is open; it stays open (`shown_step`).
* `Served.Unopened`: nothing of it is shown yet; the reply to the first request opens it
  (`unopened_answer`), an error leaves it unopened for good (`unopened_refuse`, `unopened_step`).
-/

namespace ListenDeck

namespace Pager

/-- Where a page of a list begins, as far as 32 bits go. -/
def startAt (size t : Nat) : Nat := min maxPageNumber ((t - 1) * size)

/-- The pager shows a page of the list. -/
structure Shows (list : List Item) (p : Pager) : Prop where
  within : p.state.Within
  maxPage : p.state.maxPage = pageCount list.length p.config.pageSize
  items : p.state.items =
    window list (startAt p.config.pageSize p.state.page) p.config.pageSize

/-- What the server gives for a page of the list. -/
def pageAt (list : List Item) (size t : Nat) : ItemPage where
  items := window list (startAt size t) size
  total := list.length

/-- What the pager shows when a page of the list has come. -/
def stateAt (list : List Item) (size t : Nat) : PageState where
  page := t
  maxPage := pageCount list.length size
  items := window list (startAt size t) size
  status := .idle

/-- The aim is a page of the list that begins inside it. -/
def Inside (list : List Item) (size : Nat) : Aim → Prop
  | .opening => False
  | .page t _ => 1 ≤ t ∧ t ≤ pageCount list.length size ∧ (t - 1) * size < list.length

/-- **A turn shows a page of the list**, does not come to an empty page, and fetches a page that
begins inside the list, if any. -/
structure Safe (list : List Item) (t : Turn) : Prop where
  shows : t.pager.Shows list
  inside : ∀ ticket, t.progress = .waiting ticket →
    Inside list t.pager.config.pageSize ticket.aim
  nonempty : t.progress ≠ .ended .empty

section Safe
variable {list : List Item} {p : Pager}

theorem startAt_lt {size t : Nat} {record : Bool} (h : Inside list size (.page t record)) :
    startAt size t < list.length := Nat.lt_of_le_of_lt (Nat.min_le_right _ _) h.2.2

/-- The pages of a list of at most `maxPageNumber` items begin where 32 bits go. -/
theorem startAt_of_le_pageCount (hl : list.length ≤ maxPageNumber) {size t : Nat}
    (hs : 1 ≤ size) (ht : t ≤ pageCount list.length size) :
    startAt size t = (t - 1) * size := by
  refine Nat.min_eq_right (Nat.le_trans ?_ hl)
  rcases Nat.lt_or_ge 1 t with h | h
  · exact Nat.le_of_lt (start_lt_of_le_pageCount hs h ht)
  · have h0 : t - 1 = 0 := by omega
    rw [h0, Nat.zero_mul]
    exact Nat.zero_le _

theorem shows_withStatus (h : p.Shows list) (status : PageStatus) :
    (p.withState { p.state with status }).Shows list := by
  have hs := PageState.settle_of_within (s := { p.state with status }) h.within
  unfold withState
  rw [hs]
  exact ⟨h.within, h.maxPage, h.items⟩

theorem inside_of_ne (hs : 1 ≤ p.config.pageSize) (h : p.Shows list) (n : Int) (record : Bool)
    (hn : p.clampTarget n ≠ p.state.page) :
    Inside list p.config.pageSize (.page (p.clampTarget n) record) := by
  obtain ⟨h1, h2⟩ := h.within
  obtain ⟨h3, h4⟩ := clampTarget_within p (Nat.le_trans h1 h2) n
  have hc := h.maxPage
  refine ⟨h3, by rw [← hc]; exact h4, ?_⟩
  rcases Nat.lt_or_ge 1 (p.clampTarget n) with h5 | h5
  · exact start_lt_of_le_pageCount hs h5 (by rw [← hc]; exact h4)
  · -- the page shown is a later one, so that the list is not empty
    have h6 := start_lt_of_le_pageCount (t := p.state.page) hs (by omega) (by rw [← hc]; exact h2)
    have h7 : p.clampTarget n = 1 := by omega
    rw [h7, Nat.sub_self, Nat.zero_mul]
    omega

theorem asked_safe (hs : 1 ≤ p.config.pageSize) (h : p.Shows list) {record : Bool} {t : Turn}
    (ht : p.Asked record t) : Safe list t := by
  cases ht with
  | ended o ho =>
    refine ⟨h, fun ticket hp => by simp at hp, ?_⟩
    rcases ho with rfl | ⟨rfl, -⟩ <;> simp
  | fetched n hm hn =>
    refine ⟨⟨?_, ?_, ?_⟩, fun ticket hp => ?_, by simp⟩
    · rw [fetch_state _ _ _ h.within]; exact h.within
    · rw [fetch_state _ _ _ h.within]; exact h.maxPage
    · rw [fetch_state _ _ _ h.within]; exact h.items
    · rw [fetch_progress, Progress.waiting.injEq] at hp
      subst hp
      exact inside_of_ne hs h n record hn

theorem fail_safe (h : p.Shows list) (e : ServerError) : Safe list (p.fail e) :=
  ⟨shows_withStatus h .failed, fun ticket hp => by simp [fail] at hp, by simp [fail]⟩

theorem seeded_shows : (p.seeded list.length (window list 0 p.config.pageSize)).Shows list := by
  have h1 := pageCount_pos list.length p.config.pageSize
  unfold seeded
  refine ⟨PageState.within_settle h1, rfl, ?_⟩
  have hp : max 1 (min 1 (max 1 (pageCount list.length p.config.pageSize))) = 1 := by omega
  have hstart : startAt p.config.pageSize 1 = 0 := by simp [startAt]
  simp only [withState_state, PageState.settle, withState_config, hp, hstart, take_window]

theorem display_eq (hs : 1 ≤ p.config.pageSize) {target : Nat} {record : Bool}
    (ht : Inside list p.config.pageSize (.page target record)) :
    p.display target record (pageAt list p.config.pageSize target) =
      { pager := { p with state := stateAt list p.config.pageSize target }
        effects := observation { p with state := stateAt list p.config.pageSize target } ++
          if record then [.push target] else []
        progress := .ended .loaded } := by
  have hstart := startAt_lt ht
  obtain ⟨h1, h2, -⟩ := ht
  have hne := window_isEmpty list hs hstart
  have hmax : max target (pageCount list.length p.config.pageSize) =
      pageCount list.length p.config.pageSize := Nat.max_eq_right h2
  unfold display withState pageAt stateAt
  simp only [hne, Bool.false_eq_true, if_false, hmax, take_window]
  rw [PageState.settle_of_within ⟨h1, h2⟩]

theorem display_safe (hs : 1 ≤ p.config.pageSize) {target : Nat} {record : Bool}
    (ht : Inside list p.config.pageSize (.page target record)) :
    Safe list (p.display target record (pageAt list p.config.pageSize target)) := by
  rw [display_eq hs ht]
  exact ⟨⟨⟨ht.1, ht.2.1⟩, rfl, rfl⟩, fun ticket hp => by simp at hp, by simp⟩

theorem displayFirst_safe (hs : 1 ≤ p.config.pageSize) (hm : p.mounted = true)
    (parameter : Option String) :
    Safe list (p.displayFirst parameter
      { items := window list 0 p.config.pageSize, total := list.length }) := by
  have hshows : (p.seeded list.length (window list 0 p.config.pageSize)).Shows list :=
    seeded_shows
  rcases displayFirst_cases p parameter hm
    { items := window list 0 p.config.pageSize, total := list.length } rfl with
    ⟨-, hd⟩ | ⟨hn, hd⟩
  · rw [hd]
    exact ⟨hshows, fun ticket hp => by simp at hp, by simp⟩
  · have ha : (p.seeded list.length (window list 0 p.config.pageSize)).Asked false _ :=
      .fetched (pageNamed parameter) hm hn
    have hf := asked_safe (p := p.seeded list.length (window list 0 p.config.pageSize)) hs hshows
      ha
    rw [hd]
    exact ⟨hf.shows, hf.inside, by simp [Turn.after]⟩

/-- **The reply of the server is safe** for a request that waits for a page inside the list. -/
theorem receive_safe (hs : 1 ≤ p.config.pageSize)
    (h : p.Shows list) {ticket : Ticket} (ht : Inside list p.config.pageSize ticket.aim)
    (parameter : Option String) {reply : Except ServerError ItemPage}
    (hr : reply = .ok { items := window list (p.startOf ticket.aim) p.config.pageSize
                        total := list.length } ∨ ∃ e, reply = .error e) :
    Safe list (p.receive parameter ticket reply) := by
  by_cases hc : p.isCurrent ticket = true
  · rcases hr with rfl | ⟨e, rfl⟩
    · cases ha : ticket.aim with
      | opening => rw [ha] at ht; exact ht.elim
      | page target record =>
        rw [ha] at ht
        rw [receive_page p parameter hc ha]
        exact display_safe hs ht
    · rw [receive_error p parameter hc]
      exact fail_safe h e
  · rw [receive_late p parameter (by simpa using hc)]
    exact ⟨h, fun ticket hp => by simp at hp, by simp⟩

end Safe

end Pager

namespace Served

/-- **What an event can be to the browser**: a request for a page, a change in the address bar, or
the reply of the server to a fetch. -/
inductive Acts (list : List Item) (s : Served) (e : Event) : Prop where
  | asked (record : Bool) (t : Turn) (hr : e.request? = none) (h : s.browser.pager.Asked record t)
      (ha : s.act list e = s.browser.request t)
  | moved (bar : AddressBar) (typed : Option String) (answer : Browser.Answer)
      (hr : e.request? = none) (hn : ∀ r o, answer ≠ .ended r o)
      (ha : s.act list e = ({ s.browser with bar, typed }, [], answer))
  | replied (r : Nat) (reply : Except ServerError ItemPage) (hr : e.request? = some r)
      (h : reply = .ok (s.reply list r) ∨ ∃ error, reply = .error error)
      (ha : s.act list e = s.browser.step (.reply r reply))

theorem acts (list : List Item) (s : Served) (e : Event) : Acts list s e := by
  cases e with
  | goTo target record => exact .asked record _ rfl (Pager.goTo_asked _ _ _) rfl
  | older => exact .asked true _ rfl (Pager.older_asked _) rfl
  | newer => exact .asked true _ rfl (Pager.newer_asked _) rfl
  | follow => exact .asked false _ rfl (Pager.follow_asked _ _) rfl
  | move m =>
    refine .moved (s.browser.bar.step m).1 none ((s.browser.bar.step m).2.elim .silent .moved) rfl
      (fun r o => ?_) rfl
    generalize (s.browser.bar.step m).2 = moved
    cases moved <;> simp
  | type parameter => exact .moved s.browser.bar (some parameter) .silent rfl (by simp) rfl
  | answer r => exact .replied r _ rfl (Or.inl rfl) rfl
  | refuse r error => exact .replied r _ rfl (Or.inr ⟨error, rfl⟩) rfl

/-! ## The list is open -/

/-- **The list is open**: a page of it is shown, and the waiting requests are for pages inside
it. -/
structure Shown (list : List Item) (b : Browser) : Prop where
  shows : b.pager.Shows list
  inside : ∀ w ∈ b.waiting, Pager.Inside list b.pager.config.pageSize w.2.aim

section Shown
variable {list : List Item} {config : PagerConfig} {s : Served}

theorem afterTurn_shown {b : Browser} {t : Turn} (hk : b.pager.Kept t) (ht : Pager.Safe list t)
    (hw : ∀ w ∈ b.waiting, Pager.Inside list b.pager.config.pageSize w.2.aim) (r : Nat) :
    Shown list (b.afterTurn r t).1 ∧ ∀ k, (b.afterTurn r t).2.2 ≠ .ended k .empty := by
  have hp := Browser.afterTurn_pager b r t
  have hf := (Browser.foldl_applyEffect_eq t.effects { b with pager := t.pager }).2.1
  refine ⟨⟨by rw [hp]; exact ht.shows, ?_⟩, ?_⟩
  · rw [hp, hk.config]
    cases hprog : t.progress with
    | ended o => simp only [Browser.afterTurn, hprog, hf]; exact hw
    | waiting ticket =>
      simp only [Browser.afterTurn, hprog, hf]
      intro w hm
      rcases List.mem_append.mp hm with hm | hm
      · exact hw w hm
      · rw [List.mem_singleton] at hm
        subst hm
        have := ht.inside ticket hprog
        rwa [hk.config] at this
  · intro k
    cases hprog : t.progress with
    | ended o =>
      simp only [Browser.afterTurn, hprog, ne_eq, Browser.Answer.ended.injEq, not_and]
      rintro - rfl
      exact ht.nonempty hprog
    | waiting ticket => simp [Browser.afterTurn, hprog]

/-- **An open list stays open.** No request comes to an empty page. -/
theorem shown_step (hs : 1 ≤ config.pageSize) (h : Honest config s)
    (hb : Shown list s.browser) (e : Event) :
    Shown list (s.act list e).1 ∧ ∀ k, (s.act list e).2.2 ≠ .ended k .empty := by
  have hsize : 1 ≤ s.browser.pager.config.pageSize := by rw [h.configured]; exact hs
  rcases acts list s e with ⟨record, t, -, ht, ha⟩ | ⟨bar, typed, answer, -, hn, ha⟩ |
    ⟨r, reply, -, hr, ha⟩
  · rw [ha]
    exact afterTurn_shown (b := { s.browser with requests := s.browser.requests + 1 })
      (Pager.asked_kept ht) (Pager.asked_safe hsize hb.shows ht) hb.inside _
  · rw [ha]
    exact ⟨⟨hb.shows, hb.inside⟩, fun k => hn k .empty⟩
  · rw [ha]
    cases hw : s.browser.waiting.lookup r with
    | none =>
      rw [Browser.step_reply_of_none hw]
      exact ⟨hb, fun k => by simp⟩
    | some ticket =>
      rw [Browser.step_reply_of_some hw]
      refine afterTurn_shown (b := { s.browser with waiting := s.browser.waiting.filter (·.1 ≠ r) })
        (Pager.receive_kept s.browser.pager _ _ _) ?_ (fun w hm => ?_) r
      · refine Pager.receive_safe hsize hb.shows (hb.inside _ (Browser.mem_of_lookup hw)) _ ?_
        rw [reply_eq h hw] at hr
        rw [h.configured]
        exact hr
      · exact hb.inside w (List.mem_of_mem_filter hm)

/-- **The page asked for is shown** when the server answers the latest fetch. The page of a request
that was recorded is a new entry in the address bar. -/
theorem answer_eq (hs : 1 ≤ config.pageSize) (h : Honest config s) (hb : Shown list s.browser)
    {r t : Nat} {record : Bool}
    (hw : s.browser.waiting.lookup r = some ⟨s.browser.pager.fetches, .page t record⟩) :
    (s.act list (.answer r)).1 =
      { s.browser with
        pager := { s.browser.pager with state := Pager.stateAt list config.pageSize t }
        bar := if record then s.browser.bar.push t else s.browser.bar
        typed := if record then none else s.browser.typed
        waiting := s.browser.waiting.filter (·.1 ≠ r) } := by
  have hcur : s.browser.pager.isCurrent ⟨s.browser.pager.fetches, .page t record⟩ = true := by
    unfold Pager.isCurrent
    rw [h.mounted]
    simp
  have hin := hb.inside _ (Browser.mem_of_lookup hw)
  have hdisplay := Pager.display_eq (by rw [h.configured]; exact hs) hin
  rw [h.configured] at hdisplay
  simp only [act, meaning]
  rw [Browser.step_reply_of_some hw, reply_eq h hw, Pager.receive_page _ _ hcur rfl]
  rw [Pager.startOf, Pager.offsetOf, h.configured]
  unfold Pager.pageAt Pager.startAt at hdisplay
  rw [hdisplay]
  simp only [Browser.afterTurn, List.foldl_append,
    Browser.foldl_applyEffect_of_unwritten _ (Pager.unwritten_observation _)]
  cases record <;> rfl

end Shown

/-! ## The list is being opened -/

/-- **Nothing of the list is shown yet**, and the requests `waiting` wait. -/
structure Unopened (waiting : List (Nat × Ticket)) (b : Browser) : Prop where
  page : b.pager.state.page = 1
  maxPage : b.pager.state.maxPage = 1
  fetches : b.pager.fetches = 1
  waiting : b.waiting = waiting

/-- The first request of a browser, which opens the list. -/
def first : Nat × Ticket := (0, ⟨1, .opening⟩)

section Unopened
variable {list : List Item} {config : PagerConfig} {s : Served} {waiting : List (Nat × Ticket)}

theorem opening_unopened (config : PagerConfig) (observed : Bool) (bar : AddressBar)
    (typed : Option String) : Unopened [first] (opened config observed bar typed).browser := by
  cases observed <;> exact ⟨rfl, rfl, rfl, rfl⟩

theorem unopened_asked {b : Browser} (h : Unopened waiting b) {record : Bool} {t : Turn}
    (ht : b.pager.Asked record t) :
    ∃ o, t = { pager := b.pager, progress := .ended o } ∧ o ≠ .empty := by
  cases ht with
  | ended o ho => exact ⟨o, rfl, by rcases ho with rfl | ⟨rfl, -⟩ <;> simp⟩
  | fetched n _ hn =>
    have h1 := Pager.clampTarget_within b.pager h.maxPage.ge n
    have h2 := h.page
    have h3 := h.maxPage
    omega

/-- **The list stays unopened** as long as there is no reply to a request that waits. -/
theorem unopened_step (h : Unopened waiting s.browser) {e : Event}
    (he : ∀ r, e.request? = some r → waiting.lookup r = none) :
    Unopened waiting (s.act list e).1 ∧ (∀ k, (s.act list e).2.2 ≠ .ended k .empty) ∧
      Pager.Unfetched (s.act list e).2.1 := by
  rcases acts list s e with ⟨record, t, -, ht, ha⟩ | ⟨bar, typed, answer, -, hn, ha⟩ |
    ⟨r, reply, hr, -, ha⟩
  · obtain ⟨o, rfl, ho⟩ := unopened_asked h ht
    rw [ha]
    refine ⟨⟨h.page, h.maxPage, h.fetches, h.waiting⟩, fun k hk => ho ?_, Pager.unfetched_nil⟩
    exact (Browser.Answer.ended.inj hk).2
  · rw [ha]
    exact ⟨⟨h.page, h.maxPage, h.fetches, h.waiting⟩, fun k => hn k .empty, Pager.unfetched_nil⟩
  · have hw := he r hr
    rw [← h.waiting] at hw
    rw [ha, Browser.step_reply_of_none hw]
    exact ⟨h, fun k => by simp, Pager.unfetched_nil⟩

theorem isCurrent_first (hm : s.browser.pager.mounted = true) (h : Unopened [first] s.browser) :
    s.browser.pager.isCurrent first.2 = true := by
  unfold Pager.isCurrent first
  rw [hm, h.fetches]
  rfl

theorem lookup_first (h : Unopened [first] s.browser) :
    s.browser.waiting.lookup 0 = some first.2 := by
  rw [h.waiting]
  rfl

/-- **The reply to the first request opens the list.** -/
theorem unopened_answer (hs : 1 ≤ config.pageSize) (hh : Honest config s)
    (h : Unopened [first] s.browser) :
    Shown list (s.act list (.answer 0)).1 ∧
      ∀ k, (s.act list (.answer 0)).2.2 ≠ .ended k .empty := by
  have hw := lookup_first h
  simp only [act, meaning]
  rw [Browser.step_reply_of_some hw]
  refine afterTurn_shown (b := { s.browser with waiting := s.browser.waiting.filter (·.1 ≠ 0) })
    (Pager.receive_kept s.browser.pager _ _ _) ?_ (fun w hm => ?_) 0
  · have hc := isCurrent_first hh.mounted h
    rw [Pager.receive_opening _ _ hc rfl, reply_eq hh hw, ← hh.configured]
    exact Pager.displayFirst_safe (by rw [hh.configured]; exact hs) hh.mounted _
  · rw [h.waiting] at hm
    exact (List.not_mem_nil hm).elim

theorem unopened_refuse (hm : s.browser.pager.mounted = true) (h : Unopened [first] s.browser)
    (error : ServerError) :
    Unopened [] (s.act list (.refuse 0 error)).1 ∧
      (∀ k, (s.act list (.refuse 0 error)).2.2 ≠ .ended k .empty) ∧
      Pager.Unfetched (s.act list (.refuse 0 error)).2.1 := by
  have hw := lookup_first h
  have hwithin : s.browser.pager.state.Within := by
    rw [PageState.Within, h.page, h.maxPage]; decide
  have hsettle := PageState.settle_of_within
    (s := { s.browser.pager.state with status := .failed }) hwithin
  have hf := fun es b => (Browser.foldl_applyEffect_eq es b)
  simp only [act, meaning, Browser.step_reply_of_some hw,
    Pager.receive_error _ _ (isCurrent_first hm h), Pager.fail, Browser.afterTurn]
  refine ⟨⟨?_, ?_, ?_, ?_⟩, by simp, ?_⟩
  · rw [(hf _ _).1, Pager.withState_state, hsettle]; exact h.page
  · rw [(hf _ _).1, Pager.withState_state, hsettle]; exact h.maxPage
  · rw [(hf _ _).1]; exact h.fetches
  · rw [(hf _ _).2.1, h.waiting]; rfl
  · intro user offset count hm
    rcases List.mem_cons.mp hm with hm | hm
    · simp at hm
    · exact Pager.unfetched_observation _ _ _ _ hm

end Unopened

end Served

end ListenDeck
