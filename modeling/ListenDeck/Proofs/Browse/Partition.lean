import ListenDeck.Proofs.Browse.Shown

/-!
# The pages partition the list

* `Served.step_proper`: every fetch asks for the window of its page, and no request comes to an
  empty page, whatever the user and the server do.
* `Served.turnPage_shown`: the next older page, when it has come, shows the next window.
* `Served.pages_partition`: from the first reply on a page shows its window of the list, the windows
  of all pages are the whole list, and so is what one sees by turning all pages from the first one
  on.
-/

namespace ListenDeck.Served

/-- **What a step may ask the server for**: the window of a page of the list. No request comes to an
empty page. -/
structure Proper (list : List Item) (config : PagerConfig)
    (outcome : Browser × Browser.Entry) : Prop where
  nonempty : ∀ r, outcome.2.2 ≠ .ended r .empty
  window : ∀ user offset count, .fetch user offset count ∈ outcome.2.1 →
    ∃ r number t record, outcome.2.2 = .waiting r ∧
      (r, ⟨number, .page t record⟩) ∈ outcome.1.waiting ∧
      1 ≤ t ∧ t ≤ pageCount list.length config.pageSize ∧
      user = config.user ∧ offset = (t - 1) * config.pageSize ∧ count = config.pageSize

/-- The list is being opened, could not be opened, or is open. -/
def Sound (list : List Item) (b : Browser) : Prop :=
  Unopened [first] b ∨ Unopened [] b ∨ Shown list b

section Proper
variable {list : List Item} {config : PagerConfig} {s : Served}

theorem proper_of_shown (hl : list.length ≤ maxPageNumber) (hs : 1 ≤ config.pageSize)
    (h : Honest config s) {e : Event}
    (hn : ∀ r, (s.act list e).2.2 ≠ .ended r .empty) (hb : Shown list (s.act list e).1) :
    Proper list config (s.act list e) := by
  refine ⟨hn, fun user offset count hm => ?_⟩
  obtain ⟨latest, ht⟩ := h.tracked
  have hc : (s.act list e).1.pager.config = config :=
    (Browser.step_config _ _).trans h.configured
  rcases Browser.step_stepped ht.made (s.meaning list e) with
    ⟨-, -, -, hu⟩ | ⟨r, aim, rest, es, -, -, -, hw, -, -, hu, he⟩
  · exact absurd hm (hu user offset count)
  · have hmem : (r, ⟨s.browser.pager.fetches + 1, aim⟩) ∈ (s.act list e).1.waiting := by
      unfold act; rw [hw]; simp
    have hin := hb.inside _ hmem
    rw [hc] at hin
    cases haim : aim with
    | opening => rw [haim] at hin; exact hin.elim
    | page t record =>
      rw [haim] at hin hmem
      have hstart : s.browser.pager.startOf (.page t record) = (t - 1) * config.pageSize := by
        rw [← Pager.startAt_of_le_pageCount hl hs hin.2.1, ← h.configured]
        rfl
      unfold act at hm ⊢
      rw [he] at hm ⊢
      rw [haim, hstart, h.configured, List.mem_append, List.mem_singleton] at hm
      rcases hm with hm | hm
      · exact absurd hm (hu user offset count)
      · obtain ⟨rfl, rfl, rfl⟩ := PagerEffect.fetch.inj hm
        exact ⟨r, _, t, record, rfl, hmem, hin.1, hin.2.1, rfl, rfl, rfl⟩

theorem proper_of_unfetched {outcome : Browser × Browser.Entry}
    (hn : ∀ r, outcome.2.2 ≠ .ended r .empty) (hu : Pager.Unfetched outcome.2.1) :
    Proper list config outcome :=
  ⟨hn, fun user offset count hm => absurd hm (hu user offset count)⟩

/-- **Every step asks for windows of pages only**, and the list stays as sound as it was. -/
theorem step_proper (hl : list.length ≤ maxPageNumber) (hs : 1 ≤ config.pageSize)
    (h : Honest config s) (hb : Sound list s.browser) (e : Event) :
    Sound list (s.act list e).1 ∧ Proper list config (s.act list e) := by
  rcases hb with hb | hb | hb
  · by_cases he : e.request? = some 0
    · cases e with
      | answer r =>
        cases he
        obtain ⟨hshown, hn⟩ := unopened_answer hs h hb
        exact ⟨Or.inr (Or.inr hshown), proper_of_shown hl hs h hn hshown⟩
      | refuse r error =>
        cases he
        obtain ⟨hun, hn, hu⟩ := unopened_refuse h.mounted hb error
        exact ⟨Or.inr (Or.inl hun), proper_of_unfetched hn hu⟩
      | _ => cases he
    · have hlook : ∀ r, e.request? = some r → [first].lookup r = none := by
        intro r hr
        have hne : (r == 0) = false := by
          rw [beq_eq_false_iff_ne]
          rintro rfl
          exact he hr
        simp [first, List.lookup_cons, hne]
      obtain ⟨hun, hn, hu⟩ := unopened_step hb hlook
      exact ⟨Or.inl hun, proper_of_unfetched hn hu⟩
  · obtain ⟨hun, hn, hu⟩ : Unopened [] (s.act list e).1 ∧ _ ∧ _ :=
      unopened_step hb fun r _ => rfl
    exact ⟨Or.inr (Or.inl hun), proper_of_unfetched hn hu⟩
  · obtain ⟨hshown, hn⟩ := shown_step hs h hb e
    exact ⟨Or.inr (Or.inr hshown), proper_of_shown hl hs h hn hshown⟩

theorem run_sound (hl : list.length ≤ maxPageNumber) (hs : 1 ≤ config.pageSize)
    (h : Honest config s) (hb : Sound list s.browser) (es : List Event) :
    Sound list (s.run list es).browser := by
  induction es generalizing s with
  | nil => exact hb
  | cons e es ih => exact ih (step_honest h e) (step_proper hl hs h hb e).1

theorem run_shown (hs : 1 ≤ config.pageSize) (h : Honest config s)
    (hb : Shown list s.browser) (es : List Event) :
    Shown list (s.run list es).browser := by
  induction es generalizing s with
  | nil => exact hb
  | cons e es ih => exact ih (step_honest h e) (shown_step hs h hb e).1

theorem run_unopened {waiting : List (Nat × Ticket)} (h : Unopened waiting s.browser)
    {es : List Event} (he : ∀ e ∈ es, ∀ r, e.request? = some r → waiting.lookup r = none) :
    Unopened waiting (s.run list es).browser := by
  induction es generalizing s with
  | nil => exact h
  | cons e es ih =>
    exact ih (unopened_step h (he e (by simp))).1 fun e' hm => he e' (List.mem_cons_of_mem _ hm)

theorem run_append (s : Served) (es fs : List Event) :
    s.run list (es ++ fs) = (s.run list es).run list fs := List.foldl_append

/-- **The list is open** after the reply to the first request. -/
theorem shown_of_first_answer {observed : Bool} {bar : AddressBar} {typed : Option String}
    (hs : 1 ≤ config.pageSize) {before : List Event}
    (hbefore : ∀ e ∈ before, e.request? ≠ some 0) (after : List Event) :
    Honest config ((opened config observed bar typed).run list (before ++ .answer 0 :: after)) ∧
      Shown list
        ((opened config observed bar typed).run list (before ++ .answer 0 :: after)).browser := by
  have hh := opened_honest config observed bar typed
  refine ⟨run_honest hh _, ?_⟩
  rw [run_append]
  have hb : Honest config ((opened config observed bar typed).run list before) :=
    run_honest hh before
  have hu : Unopened [first] ((opened config observed bar typed).run list before).browser := by
    refine run_unopened (opening_unopened config observed bar typed) fun e he r hr => ?_
    have hne : (r == 0) = false := by
      rw [beq_eq_false_iff_ne]
      rintro rfl
      exact hbefore e he hr
    simp [first, List.lookup_cons, hne]
  exact run_shown hs (step_honest hb _) (unopened_answer hs hb hu).1 after

end Proper

/-! ## Turning pages -/

/-- The user asks for the next older page, and gets it. -/
def turnPage (list : List Item) (s : Served) : Served :=
  (s.step list .older).step list (.answer s.browser.requests)

section Turning
variable {list : List Item} {config : PagerConfig} {s : Served}

/-- **The next older page**, when it has come, shows the next window of the list. -/
theorem turnPage_shown (hs : 1 ≤ config.pageSize) (h : Honest config s)
    (hb : Shown list s.browser)
    (hidle : s.browser.pager.state.loading = false)
    (hlt : s.browser.pager.state.page < s.browser.pager.state.maxPage) :
    Honest config (turnPage list s) ∧ Shown list (turnPage list s).browser ∧
      (turnPage list s).browser.pager.state =
        Pager.stateAt list config.pageSize (s.browser.pager.state.page + 1) := by
  set p := s.browser.pager with hp
  obtain ⟨latest, ht⟩ := h.tracked
  have hclamp : p.clampTarget (p.state.page + 1) = p.state.page + 1 := by
    unfold Pager.clampTarget; omega
  have hasked : p.older = p.fetch (.page (p.state.page + 1) true)
      (p.offsetOf (p.state.page + 1)) := by
    have hcan : p.state.canGoOlder = true := by
      unfold PageState.canGoOlder
      rw [hidle]
      simpa using hlt
    have hm : p.mounted = true := h.mounted
    unfold Pager.older Pager.goTo
    rw [if_pos hcan, hclamp, if_neg (by omega), if_pos hm]
  have hact : (s.act list .older).1 =
      { s.browser with
        pager := (p.fetch (.page (p.state.page + 1) true) (p.offsetOf (p.state.page + 1))).pager
        waiting := s.browser.waiting ++
          [(s.browser.requests, ⟨p.fetches + 1, .page (p.state.page + 1) true⟩)]
        requests := s.browser.requests + 1 } := by
    rw [← Browser.request_fetch, ← hasked]
    rfl
  have h1 : Honest config (s.step list .older) := step_honest h _
  have hb1 : Shown list (s.step list .older).browser := (shown_step hs h hb _).1
  have hw : (s.step list .older).browser.waiting.lookup s.browser.requests =
      some ⟨(s.step list .older).browser.pager.fetches, .page (p.state.page + 1) true⟩ := by
    show (s.act list .older).1.waiting.lookup s.browser.requests =
      some ⟨(s.act list .older).1.pager.fetches, _⟩
    rw [hact]
    exact Browser.lookup_append_of_made ht.made _
  refine ⟨step_honest h1 _, (shown_step hs h1 hb1 _).1, ?_⟩
  show ((s.step list .older).act list (.answer s.browser.requests)).1.pager.state = _
  rw [answer_eq hs h1 hb1 hw]

theorem iterate_turnPage (hs : 1 ≤ config.pageSize) (h : Honest config s)
    (hb : Shown list s.browser) (hfirst : s.browser.pager.state.page = 1)
    (hidle : s.browser.pager.state.loading = false) (k : Nat)
    (hk : k < s.browser.pager.state.maxPage) :
    Honest config ((turnPage list)^[k] s) ∧ Shown list ((turnPage list)^[k] s).browser ∧
      ((turnPage list)^[k] s).browser.pager.state.page = k + 1 ∧
      ((turnPage list)^[k] s).browser.pager.state.loading = false := by
  induction k with
  | zero => exact ⟨h, hb, hfirst, hidle⟩
  | succ k ih =>
    obtain ⟨h1, hb1, hpage, hidle1⟩ := ih (by omega)
    have hmax : ((turnPage list)^[k] s).browser.pager.state.maxPage =
        s.browser.pager.state.maxPage := by
      rw [hb1.shows.maxPage, hb.shows.maxPage, h1.configured, h.configured]
    obtain ⟨h2, hb2, hstate⟩ := turnPage_shown hs h1 hb1 hidle1 (by rw [hpage, hmax]; omega)
    rw [Function.iterate_succ_apply']
    refine ⟨h2, hb2, ?_, ?_⟩
    · rw [hstate, hpage]; rfl
    · rw [hstate]; rfl

theorem items_eq (hl : list.length ≤ maxPageNumber) (hs : 1 ≤ config.pageSize)
    (h : Honest config s) (hb : Shown list s.browser) :
    s.browser.pager.state.items =
      window list ((s.browser.pager.state.page - 1) * config.pageSize) config.pageSize := by
  have hle := hb.shows.within.2
  rw [hb.shows.maxPage, h.configured] at hle
  rw [hb.shows.items, h.configured, Pager.startAt_of_le_pageCount hl hs hle]

theorem flatMap_turnPage (hl : list.length ≤ maxPageNumber) (hs : 1 ≤ config.pageSize)
    (h : Honest config s) (hb : Shown list s.browser) (hfirst : s.browser.pager.state.page = 1)
    (hidle : s.browser.pager.state.loading = false) :
    (List.range s.browser.pager.state.maxPage).flatMap
      (fun k => ((turnPage list)^[k] s).browser.pager.state.items) = list := by
  have hmax : s.browser.pager.state.maxPage = pageCount list.length config.pageSize := by
    rw [hb.shows.maxPage, h.configured]
  have hitems : ∀ k ∈ List.range s.browser.pager.state.maxPage,
      ((turnPage list)^[k] s).browser.pager.state.items =
        window list (k * config.pageSize) config.pageSize := by
    intro k hk
    obtain ⟨h1, hb1, hpage, -⟩ :=
      iterate_turnPage hs h hb hfirst hidle k (List.mem_range.mp hk)
    rw [items_eq hl hs h1 hb1, hpage, Nat.add_sub_cancel]
  calc (List.range s.browser.pager.state.maxPage).flatMap
        (fun k => ((turnPage list)^[k] s).browser.pager.state.items)
      = (List.range s.browser.pager.state.maxPage).flatMap
          (fun k => window list (k * config.pageSize) config.pageSize) :=
        List.flatMap_congr hitems
    _ = list := by
        rw [hmax]
        exact flatMap_window_pageCount list hl hs

end Turning

/-! ## The pages of a list -/

/-- **The page shown is the right window, and the pages partition the list.** A browser is opened on
a list, whatever its address bar says, and the user, the address bar and the server then do anything
in any order. Opening asks for the first window, and every step asks for the window of its page only
and comes to no empty page. From the reply to the first request on, there are as many pages as the
list needs, the page shown is one of them with its window of the list, and the windows of all pages
are the list; so is what the user sees by turning the pages from the first one to the last one,
where there is no older one to ask for. -/
theorem pages_partition (config : PagerConfig) (observed : Bool) (bar : AddressBar)
    (typed : Option String) (list : List Item) (hl : list.length ≤ maxPageNumber)
    (hs : 1 ≤ config.pageSize) :
    (∀ user offset count,
      .fetch user offset count ∈ (opening config observed bar typed).2.1 ↔
        user = config.user ∧ offset = 0 ∧ count = config.pageSize) ∧
    (∀ events e, Proper list config
      (((opened config observed bar typed).run list events).act list e)) ∧
    ∀ before after, (∀ e ∈ before, e.request? ≠ some 0) →
      let s := (opened config observed bar typed).run list (before ++ .answer 0 :: after)
      let shown := s.browser.pager.state
      shown.maxPage = max 1 (list.length ⌈/⌉ config.pageSize) ∧
      1 ≤ shown.page ∧ shown.page ≤ shown.maxPage ∧
      shown.items = window list ((shown.page - 1) * config.pageSize) config.pageSize ∧
      (List.range shown.maxPage).flatMap
        (fun k => window list (k * config.pageSize) config.pageSize) = list ∧
      (shown.page = 1 → shown.loading = false →
        (List.range shown.maxPage).flatMap
          (fun k => ((turnPage list)^[k] s).browser.pager.state.items) = list ∧
        ((turnPage list)^[shown.maxPage - 1] s).browser.pager.state.canGoOlder = false) := by
  have hh := opened_honest config observed bar typed
  refine ⟨fun user offset count => ?_, fun events e => ?_, fun before after hbefore => ?_⟩
  · have heffects : (opening config observed bar typed).2.1 =
        Pager.observation { config, observed, fetches := 1, state := { status := .loading } } ++
          [.fetch config.user 0 config.pageSize] := rfl
    rw [heffects, List.mem_append, List.mem_singleton, PagerEffect.fetch.injEq]
    constructor
    · rintro (hm | hm)
      · exact absurd hm (Pager.unfetched_observation _ user offset count)
      · exact hm
    · exact Or.inr
  · have hsound : Sound list (opened config observed bar typed).browser :=
      Or.inl (opening_unopened config observed bar typed)
    exact (step_proper hl hs (run_honest hh events) (run_sound hl hs hh hsound events) e).2
  · intro s shown
    obtain ⟨h, hb⟩ : Honest config s ∧ Shown list s.browser :=
      shown_of_first_answer hs hbefore after
    have hmax : shown.maxPage = pageCount list.length config.pageSize := by
      rw [hb.shows.maxPage, h.configured]
    have hwithin : 1 ≤ shown.page ∧ shown.page ≤ shown.maxPage := hb.shows.within
    refine ⟨?_, hwithin.1, hwithin.2, ?_, ?_, fun hfirst hidle => ⟨?_, ?_⟩⟩
    · rw [hmax, pageCount_eq_ceilDiv hl hs]
    · exact items_eq hl hs h hb
    · rw [hmax]
      exact flatMap_window_pageCount list hl hs
    · exact flatMap_turnPage hl hs h hb hfirst hidle
    · have hlt : shown.maxPage - 1 < shown.maxPage := by omega
      obtain ⟨h1, hb1, hpage, -⟩ :=
        iterate_turnPage hs h hb hfirst hidle (shown.maxPage - 1) hlt
      have hlast : ((turnPage list)^[shown.maxPage - 1] s).browser.pager.state.maxPage =
          shown.maxPage := by
        rw [hb1.shows.maxPage, h1.configured, hmax]
      unfold PageState.canGoOlder
      rw [hpage, hlast, Bool.and_eq_false_iff]
      right
      rw [decide_eq_false_iff_not]
      omega

/-- Three pins, two on a page: after the first reply there are two pages, and turning them shows the
three pins. -/
theorem pages_partition_of_three_pins :
    let list : List Item := [.pin { rowId := 1 }, .pin { rowId := 2 }, .pin { rowId := 3 }]
    let s := (opened ⟨"rob", "pinned recordings", 2⟩ false (.start none) none).run list [.answer 0]
    s.browser.pager.state.maxPage = max 1 (list.length ⌈/⌉ 2) ∧
      (List.range s.browser.pager.state.maxPage).flatMap
        (fun k => ((turnPage list)^[k] s).browser.pager.state.items) = list := by
  intro list s
  have h := (pages_partition ⟨"rob", "pinned recordings", 2⟩ false (.start none) none list
    (by decide) (by decide)).2.2 [] [] (by simp)
  obtain ⟨hmax, -, -, -, -, hturn⟩ := h
  refine ⟨hmax, (hturn ?_ ?_).1⟩
  · decide +kernel
  · decide +kernel

end ListenDeck.Served
