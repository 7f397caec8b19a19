import ListenDeck.Proofs.Browse.Shown
import ListenDeck.Proofs.Browse.Trail

/-!
# Browsing onward while items are deleted

A browser is asked for one older page after the other, and in between items of the page shown are
deleted. A page starts at its number times the page size, whatever was deleted before.

* `Walk`: the browser, with the trail of its list.
* `Walk.Going`: the page that is asked for is the next one, and the trail is sound; every event
  keeps it (`step_going`).
* `Walk.behind_of_disabled`, `behind_of_endsEmpty`: what is behind the page where a walk ends.
* `Walk.shown_iff_not_lost`: at the end of a walk an item that is left in the list was shown exactly
  if it was not passed over. `Walk.loses` is a walk that passes one over.
-/

namespace ListenDeck

/-! ## Turns of the pager -/

theorem Pager.older_cases {p : Pager} (hm : p.mounted = true) :
    (p.state.canGoOlder = false ∧ p.older = { pager := p, progress := .ended .unchanged }) ∨
      (p.state.canGoOlder = true ∧
        p.older = p.fetch (.page (p.state.page + 1) true) (p.offsetOf (p.state.page + 1))) := by
  unfold older
  cases hcan : p.state.canGoOlder with
  | false => exact .inl ⟨rfl, rfl⟩
  | true =>
    have hlt : p.state.page < p.state.maxPage := by
      unfold PageState.canGoOlder at hcan
      rw [Bool.and_eq_true] at hcan
      exact of_decide_eq_true hcan.2
    have hclamp : p.clampTarget (p.state.page + 1) = p.state.page + 1 := by
      unfold clampTarget; omega
    refine .inr ⟨rfl, ?_⟩
    rw [if_pos rfl, goTo, hclamp, if_neg (Nat.succ_ne_self _), if_pos hm]

section Display
variable {list : List Item} {p : Pager} {target : Nat}

theorem Pager.display_of_nil (h : p.state.Within)
    (hn : window list (startAt p.config.pageSize target) p.config.pageSize = []) (record : Bool) :
    let t := p.display target record (pageAt list p.config.pageSize target)
    t.pager = { p with state := { p.state with status := .idle } } ∧
      t.progress = .ended .empty := by
  unfold display pageAt
  rw [hn]
  exact ⟨congrArg (fun s => { p with state := s })
    (PageState.settle_of_within (s := { p.state with status := .idle }) h), rfl⟩

theorem Pager.display_of_ne_nil (h1 : 1 ≤ target)
    (hn : window list (startAt p.config.pageSize target) p.config.pageSize ≠ [])
    (record : Bool) :
    let t := p.display target record (pageAt list p.config.pageSize target)
    let s : PageState := {
      page := target
      maxPage := max target (pageCount list.length p.config.pageSize)
      items := window list (startAt p.config.pageSize target) p.config.pageSize }
    t.pager = { p with state := s } ∧ t.progress = .ended .loaded := by
  intro t s
  have hs : s.Within := ⟨h1, Nat.le_max_left _ _⟩
  have ht : t.pager = p.withState s ∧ t.progress = .ended .loaded := by
    simp only [t, s, display, pageAt, List.isEmpty_iff, hn, if_false, take_window, and_self]
  exact ⟨ht.1.trans (congrArg (fun s => { p with state := s }) (PageState.settle_of_within hs)),
    ht.2⟩

end Display

namespace Browser

theorem afterTurn_of_ended (b : Browser) (r : Nat) {t : Turn} {o : Outcome}
    (hp : t.progress = .ended o) :
    (b.afterTurn r t).1.waiting = b.waiting ∧ (b.afterTurn r t).2.2 = .ended r o := by
  unfold afterTurn
  rw [hp]
  exact ⟨(foldl_applyEffect_eq t.effects _).2.1, rfl⟩

theorem afterTurn_of_waiting (b : Browser) (r : Nat) {t : Turn} {ticket : Ticket}
    (hp : t.progress = .waiting ticket) :
    (b.afterTurn r t).1.waiting = b.waiting ++ [(r, ticket)] := by
  unfold afterTurn
  rw [hp]
  exact congrArg (· ++ [(r, ticket)]) (foldl_applyEffect_eq t.effects _).2.1

end Browser

/-- A browser whose list loses items while its pages are turned. -/
structure Walk where
  served : Served
  trail : Trail

namespace Walk

/-- What happens on a walk. -/
inductive Event where
  /-- The user asks for the next older page. -/
  | older
  /-- The server gives a request the window it asked for, of the list as it is. -/
  | answer (request : Nat)
  /-- The server drops an item of the page shown. -/
  | drop (identity : Identity)
  /-- The item of an identity is taken from the page. -/
  | remove (identity : Identity)
  deriving DecidableEq, Repr

/-- The page shown. -/
def page (w : Walk) : PageState := w.served.browser.pager.state

/-- Where a page starts. -/
def startOf (w : Walk) (page : Nat) : Nat :=
  Pager.startAt w.served.browser.pager.config.pageSize page

/-- What the browser makes of an answer. -/
def answered (w : Walk) (request : Nat) : Browser × Browser.Entry :=
  w.served.act w.trail.list (.answer request)

/-- The walk after an event. -/
def step (w : Walk) : Event → Walk
  | .older => { w with served := w.served.step w.trail.list .older }
  | .answer request =>
    let served := w.served.step w.trail.list (.answer request)
    let page := served.browser.pager.state
    if (w.answered request).2.2 = .ended request .loaded then
      { served, trail := w.trail.turn (w.startOf page.page) page.items }
    else { w with served }
  | .drop identity => { w with trail := w.trail.drop identity }
  | .remove identity =>
    { w with served := .record w.served.asked (w.served.browser.step (.remove identity)) }

/-- The walk after a list of events. -/
def run (w : Walk) (events : List Event) : Walk := events.foldl step w

/-- A walk begins with the page that is shown. -/
def begin (served : Served) (list : List Item) : Walk where
  served := served
  trail := .begin list served.browser.pager.state.items

/-- The items that were passed over, and those that the next page passes over. -/
def lost (w : Walk) : List Item :=
  w.trail.passed ++ w.trail.between (w.startOf (w.page.page + 1))

/-- There is no older page to ask for. -/
def Disabled (w : Walk) : Prop :=
  w.served.browser.waiting = [] ∧ w.page.canGoOlder = false

instance (w : Walk) : Decidable w.Disabled := inferInstanceAs (Decidable (_ ∧ _))

/-- The server has nothing for a request. -/
def EndsEmpty (w : Walk) (request : Nat) : Prop :=
  (w.answered request).2.2 = .ended request .empty

/-- **What holds on a walk.** The page shown is one of the pages there were when it came, and the
next one is under way at most. -/
structure Going (config : PagerConfig) (length : Nat) (w : Walk) : Prop where
  honest : Served.Honest config w.served
  trail : w.trail.Sound length config.pageSize
  within : w.page.Within
  maxPage : w.page.maxPage = max w.page.page (pageCount w.trail.total config.pageSize)
  start : w.trail.start = Pager.startAt config.pageSize w.page.page
  asked : w.served.browser.waiting = [] ∧ w.page.loading = false ∨
    ∃ r, w.served.browser.waiting =
        [(r, ⟨w.served.browser.pager.fetches, .page (w.page.page + 1) true⟩)] ∧
      w.page.loading = true

section Going
variable {config : PagerConfig} {length : Nat} {w : Walk}

theorem going_of_served (h : w.Going config length) {served : Served}
    (hh : Served.Honest config served)
    (hpage : served.browser.pager.state.page = w.page.page)
    (hmax : served.browser.pager.state.maxPage = w.page.maxPage)
    (hasked : served.browser.waiting = [] ∧ served.browser.pager.state.loading = false ∨
      ∃ r, served.browser.waiting =
          [(r, ⟨served.browser.pager.fetches, .page (w.page.page + 1) true⟩)] ∧
        served.browser.pager.state.loading = true) :
    ({ w with served } : Walk).Going config length where
  honest := hh
  trail := h.trail
  within := by
    change 1 ≤ served.browser.pager.state.page ∧
      served.browser.pager.state.page ≤ served.browser.pager.state.maxPage
    rw [hpage, hmax]
    exact h.within
  maxPage := by
    change served.browser.pager.state.maxPage = max served.browser.pager.state.page _
    rw [hpage, hmax]
    exact h.maxPage
  start := by
    rw [h.start]
    exact congrArg (Pager.startAt _) hpage.symm
  asked := by
    unfold page
    rw [hpage]
    exact hasked

theorem older_going (h : w.Going config length) : (w.step .older).Going config length := by
  have hh : (w.served.step w.trail.list .older).Honest config :=
    Served.step_honest h.honest .older
  have hb : (w.served.step w.trail.list .older).browser =
      (w.served.browser.request w.served.browser.pager.older).1 := rfl
  rcases Pager.older_cases h.honest.mounted with ⟨-, ho⟩ | ⟨hcan, ho⟩
  · have hbrowser : (w.served.step w.trail.list .older).browser =
        { w.served.browser with requests := w.served.browser.requests + 1 } := by
      rw [hb, ho]
      rfl
    exact going_of_served h hh (by rw [hbrowser]; rfl) (by rw [hbrowser]; rfl)
      (by rw [hbrowser]; exact h.asked)
  · rw [ho, Browser.request_fetch] at hb
    have hidle : w.page.loading = false := by
      unfold PageState.canGoOlder at hcan
      rw [Bool.and_eq_true, Bool.not_eq_true'] at hcan
      exact hcan.1
    have hnone : w.served.browser.waiting = [] := by
      rcases h.asked with ⟨hw, -⟩ | ⟨-, -, hload⟩
      · exact hw
      · rw [hidle] at hload
        cases hload
    have hstate := Pager.fetch_state w.served.browser.pager (.page (w.page.page + 1) true)
      (w.served.browser.pager.offsetOf (w.page.page + 1)) h.within
    refine going_of_served h hh ?_ ?_ (.inr ⟨w.served.browser.requests, ?_, ?_⟩) <;> rw [hb]
    · exact (congrArg PageState.page hstate).trans rfl
    · exact (congrArg PageState.maxPage hstate).trans rfl
    · dsimp only
      rw [hnone]
      rfl
    · exact (congrArg PageState.loading hstate).trans rfl

theorem remove_going (h : w.Going config length) (identity : Identity) :
    (w.step (.remove identity)).Going config length := by
  have hh := Served.record_honest h.honest (e := .remove identity) (by simp)
  have hsettle := PageState.settle_of_within (s := w.page.without identity) h.within
  have hp : (w.served.browser.pager.remove identity).1 = w.served.browser.pager ∨
      (w.served.browser.pager.remove identity).1 =
        { w.served.browser.pager with state := w.page.without identity } := by
    unfold Pager.remove
    split_ifs
    · exact .inr (congrArg (fun s => { w.served.browser.pager with state := s }) hsettle)
    · exact .inl rfl
  have hb : (Served.record w.served.asked (w.served.browser.step (.remove identity))).browser =
      { w.served.browser with pager := (w.served.browser.pager.remove identity).1 } := rfl
  rcases hp with hp | hp <;> rw [hp] at hb <;>
    exact going_of_served h hh (by rw [hb]; rfl) (by rw [hb]; rfl) (by rw [hb]; exact h.asked)

theorem answer_of_none (w : Walk) {request : Nat}
    (hn : w.served.browser.waiting.lookup request = none) :
    (w.answered request).2.2 = .silent ∧
      (w.served.step w.trail.list (.answer request)).browser = w.served.browser := by
  have hstep : w.answered request = (w.served.browser, [], .silent) :=
    Browser.step_reply_of_none hn _
  exact ⟨congrArg (·.2.2) hstep, congrArg Prod.fst hstep⟩

theorem answer_of_waiting (h : w.Going config length) {request : Nat}
    (hw : w.served.browser.waiting =
      [(request, ⟨w.served.browser.pager.fetches, .page (w.page.page + 1) true⟩)]) :
    w.answered request =
      ({ w.served.browser with waiting := [] } : Browser).afterTurn request
        (w.served.browser.pager.display (w.page.page + 1) true
          (Pager.pageAt w.trail.list config.pageSize (w.page.page + 1))) := by
  have hlookup : w.served.browser.waiting.lookup request =
      some ⟨w.served.browser.pager.fetches, .page (w.page.page + 1) true⟩ := by
    rw [hw, List.lookup_cons_self]
  have hcurrent : w.served.browser.pager.isCurrent
      ⟨w.served.browser.pager.fetches, .page (w.page.page + 1) true⟩ = true := by
    unfold Pager.isCurrent
    rw [h.honest.mounted]
    simp
  have hnone : w.served.browser.waiting.filter (·.1 ≠ request) = [] := by
    rw [hw]
    simp
  have hreply := @Served.reply_eq w.trail.list _ _ h.honest _ _ hlookup
  unfold answered Served.act Served.meaning
  rw [Browser.step_reply_of_some hlookup, hreply, Pager.receive_page _ _ hcurrent rfl, hnone,
    Pager.startOf, Pager.offsetOf, h.honest.configured]
  rfl

/-- **The request for the next page**: it is not the one that is answered, or there is nothing on
the page, or the page is shown. -/
inductive Answers (config : PagerConfig) (w : Walk) (request : Nat) : Prop where
  | none (ho : (w.answered request).2.2 = .silent)
      (hb : (w.answered request).1 = w.served.browser)
  | empty (ho : w.EndsEmpty request)
      (hn : window w.trail.list (Pager.startAt config.pageSize (w.page.page + 1))
        config.pageSize = [])
      (hw : (w.answered request).1.waiting = [])
      (hp : (w.answered request).1.pager.state = { w.page with status := .idle })
  | loaded (ho : (w.answered request).2.2 = .ended request .loaded)
      (hn : window w.trail.list (Pager.startAt config.pageSize (w.page.page + 1))
        config.pageSize ≠ [])
      (hw : (w.answered request).1.waiting = [])
      (hp : (w.answered request).1.pager.state = {
        page := w.page.page + 1
        maxPage := max (w.page.page + 1) (pageCount w.trail.list.length config.pageSize)
        items := window w.trail.list (Pager.startAt config.pageSize (w.page.page + 1))
          config.pageSize })

theorem answers (h : w.Going config length) (request : Nat) : Answers config w request := by
  have hconfig : w.served.browser.pager.config = config := h.honest.configured
  rcases h.asked with ⟨hw, -⟩ | ⟨r, hw, -⟩
  · obtain ⟨ho, hb⟩ := w.answer_of_none (show w.served.browser.waiting.lookup request = none by
      rw [hw]; rfl)
    exact .none ho hb
  · by_cases hr : request = r
    · subst hr
      have hanswer := answer_of_waiting h hw
      have hpager := Browser.afterTurn_pager { w.served.browser with waiting := [] } request
        (w.served.browser.pager.display (w.page.page + 1) true
          (Pager.pageAt w.trail.list config.pageSize (w.page.page + 1)))
      rw [← hanswer] at hpager
      subst hconfig
      by_cases hn : window w.trail.list (Pager.startAt w.served.browser.pager.config.pageSize
          (w.page.page + 1)) w.served.browser.pager.config.pageSize = []
      · obtain ⟨hp, hended⟩ := Pager.display_of_nil h.within hn true
        obtain ⟨hwaiting, ho⟩ := Browser.afterTurn_of_ended
          { w.served.browser with waiting := [] } request hended
        rw [← hanswer] at hwaiting ho
        exact .empty ho hn hwaiting (by rw [hpager, hp]; rfl)
      · obtain ⟨hp, hended⟩ := Pager.display_of_ne_nil (Nat.le_add_left 1 w.page.page) hn true
        obtain ⟨hwaiting, ho⟩ := Browser.afterTurn_of_ended
          { w.served.browser with waiting := [] } request hended
        rw [← hanswer] at hwaiting ho
        exact .loaded ho hn hwaiting (by rw [hpager, hp])
    · have hne : (request == r) = false := by simpa using hr
      obtain ⟨ho, hb⟩ := w.answer_of_none (show w.served.browser.waiting.lookup request = none by
        rw [hw, List.lookup_cons, hne]; rfl)
      exact .none ho hb

theorem mul_eq_sub_one_mul_add {page : Nat} (h1 : 1 ≤ page) (size : Nat) :
    page * size = (page - 1) * size + size := by
  rw [← Nat.succ_mul, Nat.succ_eq_add_one, Nat.sub_add_cancel h1]

/-- The next page starts at most a page behind this one. -/
theorem startAt_succ (size : Nat) {page : Nat} (h1 : 1 ≤ page) :
    Pager.startAt size page ≤ Pager.startAt size (page + 1) ∧
      Pager.startAt size (page + 1) ≤ Pager.startAt size page + size := by
  unfold Pager.startAt
  rw [Nat.add_sub_cancel, mul_eq_sub_one_mul_add h1]
  omega

theorem going_of_loaded (h : w.Going config length) {served : Served} (hh : served.Honest config)
    (hn : window w.trail.list (Pager.startAt config.pageSize (w.page.page + 1))
      config.pageSize ≠ [])
    (hw : served.browser.waiting = [])
    (hp : served.browser.pager.state = {
      page := w.page.page + 1
      maxPage := max (w.page.page + 1) (pageCount w.trail.list.length config.pageSize)
      items := window w.trail.list (Pager.startAt config.pageSize (w.page.page + 1))
        config.pageSize }) :
    Going config length {
      served
      trail := w.trail.turn (Pager.startAt config.pageSize (w.page.page + 1))
        (window w.trail.list (Pager.startAt config.pageSize (w.page.page + 1))
          config.pageSize) } := by
  obtain ⟨hle, hnext⟩ := startAt_succ config.pageSize h.within.1
  exact {
    honest := hh
    trail := by
      refine h.trail.turn_sound (h.start ▸ hle) (h.start ▸ hnext) ?_
      by_contra hge
      exact hn (by rw [window, List.drop_of_length_le (by omega), List.take_nil])
    within := by
      rw [page, hp]
      exact ⟨Nat.le_add_left 1 _, Nat.le_max_left _ _⟩
    maxPage := by
      rw [page, hp]
      rfl
    start := by
      change _ = Pager.startAt config.pageSize served.browser.pager.state.page
      rw [hp]
      rfl
    asked := .inl ⟨hw, by
      rw [page, hp]
      rfl⟩ }

theorem answer_going (h : w.Going config length) (request : Nat) :
    (w.step (.answer request)).Going config length := by
  have hh : (w.served.step w.trail.list (.answer request)).Honest config :=
    Served.step_honest h.honest (.answer request)
  have hb : (w.served.step w.trail.list (.answer request)).browser = (w.answered request).1 := rfl
  rcases answers h request with ⟨ho, hbrowser⟩ | ⟨ho, -, hw, hp⟩ | ⟨ho, hn, hw, hp⟩
  · have hstep : w.step (.answer request) =
        { w with served := w.served.step w.trail.list (.answer request) } :=
      if_neg (by rw [ho]; simp)
    rw [hstep]
    rw [hbrowser] at hb
    exact going_of_served h hh (by rw [hb]; rfl) (by rw [hb]; rfl) (by rw [hb]; exact h.asked)
  · have hstep : w.step (.answer request) =
        { w with served := w.served.step w.trail.list (.answer request) } :=
      if_neg (by unfold EndsEmpty at ho; rw [ho]; simp)
    rw [hstep]
    exact going_of_served h hh (by rw [hb, hp]) (by rw [hb, hp])
      (.inl ⟨by rw [hb, hw], by rw [hb, hp]; rfl⟩)
  · have hstep : w.step (.answer request) = {
        served := w.served.step w.trail.list (.answer request)
        trail := w.trail.turn (Pager.startAt config.pageSize (w.page.page + 1))
          (window w.trail.list (Pager.startAt config.pageSize (w.page.page + 1))
            config.pageSize) } := by
      refine (if_pos ho).trans ?_
      rw [hb, hp, startOf, h.honest.configured]
    rw [hstep]
    exact going_of_loaded h hh hn hw hp

/-- **Every event keeps what holds on a walk.** -/
theorem step_going (h : w.Going config length) (e : Event) : (w.step e).Going config length := by
  cases e with
  | older => exact older_going h
  | answer request => exact answer_going h request
  | drop identity =>
    obtain ⟨hstart, htotal, -⟩ := w.trail.drop_rest identity
    exact {
      honest := h.honest
      trail := h.trail.drop_sound identity
      within := h.within
      maxPage := by
        rw [step, htotal]
        exact h.maxPage
      start := hstart.trans h.start
      asked := h.asked }
  | remove identity => exact remove_going h identity

theorem run_going (h : w.Going config length) (es : List Event) :
    (w.run es).Going config length := by
  induction es generalizing w with
  | nil => exact h
  | cons e es ih => exact ih (step_going h e)

/-! ### Where a walk ends -/

/-- **Where no older page can be asked for, nothing is behind the page**, as far as 32 bits go. -/
theorem behind_of_disabled (hs : 1 ≤ config.pageSize) (h : w.Going config length)
    (hl : length ≤ maxPageNumber) (hd : w.Disabled) : w.trail.behind = [] := by
  obtain ⟨hwaiting, hcan⟩ := hd
  have hidle : w.page.loading = false := by
    rcases h.asked with ⟨-, hidle⟩ | ⟨r, hw, -⟩
    · exact hidle
    · rw [hwaiting] at hw
      cases hw
  have hlast : w.page.maxPage ≤ w.page.page := by
    unfold PageState.canGoOlder at hcan
    rw [hidle, Bool.not_false, Bool.true_and, decide_eq_false_iff_not] at hcan
    exact Nat.le_of_not_lt hcan
  have htotal : w.trail.total ≤ maxPageNumber :=
    (Nat.le_add_left _ _).trans (h.trail.count.trans hl)
  have hpages : pageCount w.trail.total config.pageSize ≤ w.page.page :=
    (Nat.le_max_right _ _).trans (h.maxPage.ge.trans hlast)
  -- the page shown reaches as far as the list did when it came
  have hreach : w.trail.total ≤ (w.page.page - 1) * config.pageSize + config.pageSize := by
    rw [← mul_eq_sub_one_mul_add h.within.1]
    exact (le_pageCount_mul htotal hs).trans (Nat.mul_le_mul_right _ hpages)
  have hstart := h.start
  have hlength := h.trail.length_le
  rcases h.trail.full with hfull | hfull
  · rw [Trail.behind, List.drop_eq_nil_iff, Trail.front]
    unfold Pager.startAt at hstart
    omega
  · exact hfull

/-- Where the server has nothing for the next page, all that is behind the page is passed over. -/
theorem behind_of_endsEmpty (hs : 1 ≤ config.pageSize) (h : w.Going config length) {request : Nat}
    (he : w.EndsEmpty request) :
    w.trail.behind = w.trail.between (w.startOf (w.page.page + 1)) := by
  rcases answers h request with ⟨ho, -⟩ | ⟨-, hn, -, -⟩ | ⟨ho, -, -, -⟩
  · unfold EndsEmpty at he
    rw [ho] at he
    cases he
  · have hend : w.trail.list.length ≤ Pager.startAt config.pageSize (w.page.page + 1) := by
      have hlength := congrArg List.length hn
      rw [length_window, List.length_nil] at hlength
      omega
    rw [startOf, h.honest.configured, Trail.between, window, List.take_of_length_le]
    · rfl
    · rw [List.length_drop]
      omega
  · unfold EndsEmpty at he
    rw [ho] at he
    cases he

end Going

/-! ### Where a walk begins -/

/-- **A browser that shows the first page of a list**: it was given that page, or it has opened the
list and its address bar names no other page. -/
inductive Starts (config : PagerConfig) (list : List Item) : Served → Prop
  | seeded (observed : Bool) (bar : AddressBar) (typed : Option String) :
    Starts config list (.record [] (({ Browser.fresh config observed bar with typed }).step
      (.seed list.length (window list 0 config.pageSize))))
  | opened (observed : Bool) (bar : AddressBar) (typed : Option String)
    (h : ((Served.opened config observed bar typed).step list (.answer 0)).browser.waiting = []) :
    Starts config list ((Served.opened config observed bar typed).step list (.answer 0))

/-- The first page of a list, as it is shown. -/
def firstPage (config : PagerConfig) (list : List Item) : PageState where
  maxPage := pageCount list.length config.pageSize
  items := window list 0 config.pageSize

theorem seeded_firstPage {p : Pager} {config : PagerConfig} (hc : p.config = config)
    (list : List Item) :
    (p.seeded list.length (window list 0 config.pageSize)).state = firstPage config list := by
  subst hc
  have hwithin : (firstPage p.config list).Within := ⟨Nat.le_refl 1, pageCount_pos _ _⟩
  have htake := take_window list 0 p.config.pageSize
  unfold Pager.seeded
  rw [htake]
  exact PageState.settle_of_within hwithin

section Begin
variable {config : PagerConfig} {list : List Item} {served : Served}

theorem begin_going (hl : (list.map Item.identity).Nodup) (hh : Served.Honest config served)
    (hpage : served.browser.pager.state = firstPage config list)
    (hw : served.browser.waiting = []) : (begin served list).Going config list.length where
  honest := hh
  trail := by
    have hsound := Trail.begin_sound hl config.pageSize
    unfold begin
    rw [hpage]
    exact hsound
  within := by
    change PageState.Within served.browser.pager.state
    rw [hpage]
    exact ⟨Nat.le_refl 1, pageCount_pos _ _⟩
  maxPage := by
    change served.browser.pager.state.maxPage = max served.browser.pager.state.page _
    rw [hpage]
    exact (Nat.max_eq_right (pageCount_pos _ _)).symm
  start := by
    change 0 = Pager.startAt config.pageSize served.browser.pager.state.page
    rw [hpage, Pager.startAt, firstPage, Nat.sub_self, Nat.zero_mul, Nat.min_zero]
  asked := by
    refine .inl ⟨hw, ?_⟩
    change served.browser.pager.state.loading = false
    rw [hpage]
    rfl

theorem opened_firstPage (observed : Bool) (bar : AddressBar) (typed : Option String)
    (hw : ((Served.opened config observed bar typed).step list (.answer 0)).browser.waiting = []) :
    ((Served.opened config observed bar typed).step list (.answer 0)).browser.pager.state =
      firstPage config list := by
  have hh := Served.opened_honest config observed bar typed
  have hu := Served.opening_unopened config observed bar typed
  have hlookup := Served.lookup_first hu
  have hanswer : ((Served.opened config observed bar typed).act list (.answer 0)) =
      ({ (Served.opened config observed bar typed).browser with
        waiting := (Served.opened config observed bar typed).browser.waiting.filter (·.1 ≠ 0) } :
          Browser).afterTurn 0
        ((Served.opened config observed bar typed).browser.pager.displayFirst
          (Served.opened config observed bar typed).browser.pageText
          { items := window list 0 config.pageSize, total := list.length }) := by
    unfold Served.act Served.meaning
    rw [Browser.step_reply_of_some hlookup, Served.reply_eq hh hlookup,
      Pager.receive_opening _ _ (Served.isCurrent_first hh.mounted hu) rfl]
    rfl
  change ((Served.opened config observed bar typed).act list (.answer 0)).1.pager.state = _
  change ((Served.opened config observed bar typed).act list (.answer 0)).1.waiting = _ at hw
  rw [hanswer] at hw ⊢
  rw [Browser.afterTurn_pager]
  rcases Pager.displayFirst_cases _ _ hh.mounted _ rfl with ⟨-, hd⟩ | ⟨-, hd⟩ <;> rw [hd] at hw ⊢
  · exact seeded_firstPage hh.configured list
  · -- another page is under way
    have hwaits : ∀ (b : Browser) (p : Pager) (aim : Aim) (offset : Nat) (es : List PagerEffect),
        (b.afterTurn 0 ((p.fetch aim offset).after es)).1.waiting ≠ [] := by
      intro b p aim offset es
      rw [Browser.afterTurn_of_waiting b 0 (t := (p.fetch aim offset).after es) rfl]
      exact List.append_ne_nil_of_right_ne_nil _ (List.cons_ne_nil _ _)
    exact absurd hw (hwaits _ _ _ _ _)

theorem starts_going (hl : (list.map Item.identity).Nodup) (h : Starts config list served) :
    (begin served list).Going config list.length := by
  cases h with
  | seeded observed bar typed =>
    refine begin_going hl (Served.record_honest ?_ (by simp)) ?_ rfl
    · exact ⟨rfl, rfl, ⟨none, Browser.tracked_of_waiting_nil rfl⟩, fun _ hm =>
        absurd hm List.not_mem_nil⟩
    · exact seeded_firstPage (p := { config, observed }) rfl list
  | opened observed bar typed hw =>
    exact begin_going hl (Served.step_honest (Served.opened_honest config observed bar typed) _)
      (opened_firstPage observed bar typed hw) hw

end Begin

theorem mem_list_of_not_dropped {w : Walk} {pin : Item} (hp : pin ∈ w.trail.list)
    {events : List Event} (he : .drop pin.identity ∉ events) : pin ∈ (w.run events).trail.list := by
  induction events generalizing w with
  | nil => exact hp
  | cons e events ih =>
    obtain ⟨hne, hrest⟩ := not_or.mp (List.mem_cons.not.mp he)
    refine ih ?_ hrest
    cases e with
    | older => exact hp
    | answer request =>
      simp only [step]
      split_ifs <;> exact hp
    | drop identity =>
      have hid : pin.identity ≠ identity := fun h => hne (congrArg Event.drop h)
      simp only [step, Trail.drop]
      split_ifs
      · exact List.mem_filter.mpr ⟨hp, decide_eq_true hid⟩
      · exact hp
    | remove identity => exact hp

/-- **What is lost on a walk.** A browser that shows the first page of a list is asked for one older
page after the other; each fetch is answered with its window of the list as it is then, and in
between items of the page shown are dropped from the list and taken from the page. An item that is
left was shown unless it is behind the page shown, or once stood behind a page and before the start
of the next one when that came. No more items are lost so than were dropped. Where no older page can
be asked for, in a list that 32 bits can count, and where the server has nothing for the next page,
the items that were not shown are those that were lost so. -/
theorem shown_iff_not_lost (config : PagerConfig) (size : Nat) (list : List Item)
    (hl : (list.map Item.identity).Nodup) {served : Served}
    (hstart : Starts (config.withPageSize size) list served) (events : List Event) :
    let w := (begin served list).run events
    (∀ pin ∈ list, .drop pin.identity ∉ events → pin ∈ w.trail.list) ∧
    (∀ pin ∈ w.trail.list, pin ∈ w.trail.shown ↔ pin ∉ w.trail.passed ∧ pin ∉ w.trail.behind) ∧
    w.lost.length + w.trail.list.length ≤ list.length ∧
    (w.Disabled → list.length ≤ maxPageNumber →
      ∀ pin ∈ w.trail.list, pin ∈ w.trail.shown ↔ pin ∉ w.lost) ∧
    ∀ request, w.EndsEmpty request →
      ∀ pin ∈ w.trail.list, pin ∈ w.trail.shown ↔ pin ∉ w.lost := by
  intro w
  have hs : 1 ≤ (config.withPageSize size).pageSize := Nat.le_max_left 1 size
  have h : w.Going (config.withPageSize size) list.length :=
    run_going (starts_going hl hstart) events
  have hlost : ∀ pin, pin ∈ w.lost ↔
      pin ∈ w.trail.passed ∨ pin ∈ w.trail.between (w.startOf (w.page.page + 1)) := fun pin =>
    List.mem_append
  refine ⟨fun pin hp => mem_list_of_not_dropped hp, fun pin hp => h.trail.mem_shown_iff hp, ?_,
    fun hd hlength pin hp => ?_, fun request he pin hp => ?_⟩
  · have hbetween := h.trail.length_between_le
      (w.startOf (w.page.page + 1)) (by
        rw [h.start, startOf, h.honest.configured]
        exact (startAt_succ _ h.within.1).2)
    have hcount := h.trail.count
    have htotal := h.trail.length_le
    rw [lost, List.length_append]
    omega
  · have hbehind := behind_of_disabled hs h hlength hd
    have hbetween : w.trail.between (w.startOf (w.page.page + 1)) = [] := by
      rw [Trail.between, window]
      change w.trail.behind.take _ = []
      rw [hbehind, List.take_nil]
    rw [h.trail.mem_shown_iff hp, hlost, hbetween, hbehind]
    simp
  · rw [h.trail.mem_shown_iff hp, hlost, not_or, behind_of_endsEmpty hs h he]

/-- A list of four pins whose first page, of two, is shown. -/
def fourPins : Walk :=
  let list : List Item :=
    [.pin { rowId := 1 }, .pin { rowId := 2 }, .pin { rowId := 3 }, .pin { rowId := 4 }]
  begin (.record [] ((Browser.fresh (PagerConfig.withPageSize ⟨"rob", "pinned recordings", 25⟩ 2)
    false (.start none)).step (.seed 4 (window list 0 2)))) list

/-- The first pin is deleted, and the next page is asked for and comes. -/
def oneDeletion : List Event := [.drop (.pin 1), .remove (.pin 1), .older, .answer 0]

/-- No older page can be asked for then; all pins that are left were shown, but for the third. -/
theorem shown_iff_not_lost_of_one_deletion :
    let w := fourPins.run oneDeletion
    w.Disabled ∧ w.lost = [.pin { rowId := 3 }] ∧
      ∀ pin ∈ w.trail.list, pin ∈ w.trail.shown ↔ pin ∉ w.lost := by
  have hd : (fourPins.run oneDeletion).Disabled := by decide +kernel
  have h := shown_iff_not_lost ⟨"rob", "pinned recordings", 25⟩ 2 fourPins.trail.list
    (by decide +kernel) (.seeded false (.start none) none) oneDeletion
  exact ⟨hd, by decide +kernel, h.2.2.2.1 hd (by decide +kernel)⟩

/-- The third pin is not deleted, and not shown on either page: it has moved to the first page of
the list as it is now. -/
theorem loses :
    let w := fourPins.run oneDeletion
    w.Disabled ∧ .pin { rowId := 3 } ∈ w.trail.list ∧ .pin { rowId := 3 } ∉ w.trail.shown := by
  decide +kernel

end Walk

end ListenDeck
