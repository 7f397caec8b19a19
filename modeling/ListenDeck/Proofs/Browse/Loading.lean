import ListenDeck.Proofs.Browse.Runs
import Mathlib.Data.List.Induction

/-!
# The loading flag

A pager says that it loads exactly while the reply to its latest fetch is awaited.

* `Pager.Signals`: a turn that ends its request takes the flag down, one that issues a fetch puts it
  up (`receive_signals`).
* `Browser.Awaits`: the flag is up exactly if the ticket of the latest fetch waits, and the request
  made last, if it waits, has this ticket. Every step keeps it (`step_awaits`) as long as the pager
  is open and nothing is seeded while a request waits.
* `Browser.loading_iff`: the same for every run of a new browser, said of the request that issued
  the latest fetch; while it waits, the buttons do nothing.
-/

namespace ListenDeck

namespace Pager

/-- **A turn and the flag**: the request ends and the flag is down, or it waits for a new fetch and
the flag is up. -/
inductive Signals (p : Pager) (t : Turn) : Prop where
  | ended (o : Outcome) (hp : t.progress = .ended o) (hf : t.pager.fetches = p.fetches)
      (hs : t.pager.state.status ≠ .loading)
  | waits (aim : Aim) (hp : t.progress = .waiting ⟨p.fetches + 1, aim⟩)
      (hf : t.pager.fetches = p.fetches + 1) (hs : t.pager.state.status = .loading)

theorem display_signals (p : Pager) (target : Nat) (record : Bool) (page : ItemPage) :
    p.Signals (p.display target record page) := by
  unfold display
  split_ifs
  · exact .ended .empty rfl rfl (by simp [PageState.settle])
  · exact .ended .loaded rfl rfl (by simp [PageState.settle])
  · exact .ended .loaded rfl rfl (by simp [PageState.settle])

/-- **The reply to the latest fetch** takes the flag down, unless it leads to the next fetch. -/
theorem receive_signals {p : Pager} {ticket : Ticket} (h : p.isCurrent ticket = true)
    (parameter : Option String) (reply : Except ServerError ItemPage) :
    p.Signals (p.receive parameter ticket reply) := by
  rcases reply with e | page
  · rw [receive_error p parameter h]
    exact .ended .failed rfl rfl (by simp [fail, PageState.settle])
  · cases ha : ticket.aim with
    | page target record =>
      rw [receive_page p parameter h ha]
      exact display_signals p target record page
    | opening =>
      rw [receive_opening p parameter h ha]
      rcases displayFirst_cases p parameter (mounted_of_isCurrent h) page rfl with
        ⟨-, hd⟩ | ⟨-, hd⟩ <;> rw [hd]
      · exact .ended .loaded rfl rfl (by simp [seeded, PageState.settle])
      · exact .waits _ rfl rfl rfl

end Pager

namespace Browser

/-- The user makes a request. -/
def Event.isRequest : Event → Bool
  | .open => true
  | .goTo .. => true
  | .older => true
  | .newer => true
  | .follow => true
  | _ => false

/-- Lists are seeded before the first request only. -/
def SeedsFirst (es : List Event) : Prop :=
  ∀ before total items after, es = before ++ .seed total items :: after →
    ∀ e ∈ before, e.isRequest = false

theorem seedsFirst_of_append {es fs : List Event} (h : SeedsFirst (es ++ fs)) : SeedsFirst es := by
  intro before total items after he
  exact h before total items (after ++ fs) (by rw [he]; simp)

/-- **The flag is up exactly if the ticket of the latest fetch waits**, and the request made last
has this ticket, if it waits. -/
structure Awaits (b : Browser) : Prop where
  loading_iff : b.pager.state.status = .loading ↔
    ∃ w ∈ b.waiting, w.2.number = b.pager.fetches
  newest : ∀ w ∈ b.waiting, w.1 + 1 = b.requests → w.2.number = b.pager.fetches

section Awaits
variable {b : Browser} {latest : Option Nat}

theorem afterTurn_waiting_of_ended (b : Browser) (r : Nat) {t : Turn} {o : Outcome}
    (hp : t.progress = .ended o) : (b.afterTurn r t).1.waiting = b.waiting := by
  simp only [afterTurn, hp, (foldl_applyEffect_eq t.effects _).2.1]

theorem afterTurn_waiting_of_waiting (b : Browser) (r : Nat) {t : Turn} {ticket : Ticket}
    (hp : t.progress = .waiting ticket) :
    (b.afterTurn r t).1.waiting = b.waiting ++ [(r, ticket)] := by
  simp only [afterTurn, hp, (foldl_applyEffect_eq t.effects _).2.1]

theorem afterTurn_awaits {r : Nat} {t : Turn} (hn : ∀ w ∈ b.waiting, w.2.number < b.pager.fetches)
    (hr : ∀ w ∈ b.waiting, w.1 + 1 ≠ b.requests) (h : b.pager.Signals t) :
    Awaits (b.afterTurn r t).1 := by
  have hp := afterTurn_pager b r t
  have hq := afterTurn_requests b r t
  cases h with
  | ended o ho hf hs =>
    have hw := afterTurn_waiting_of_ended b r ho
    refine ⟨?_, ?_⟩
    · rw [hp, hw, hf]
      refine iff_of_false hs ?_
      rintro ⟨w, hm, he⟩
      have := hn w hm
      omega
    · rw [hw, hq]
      exact fun w hm he => absurd he (hr w hm)
  | waits aim ho hf hs =>
    have hw := afterTurn_waiting_of_waiting b r ho
    refine ⟨?_, ?_⟩
    · rw [hp, hw, hf]
      exact iff_of_true hs ⟨(r, ⟨b.pager.fetches + 1, aim⟩), by simp, rfl⟩
    · rw [hp, hw, hq, hf]
      intro w hm he
      rcases List.mem_append.mp hm with hm | hm
      · exact absurd he (hr w hm)
      · rw [List.mem_singleton] at hm
        rw [hm]

/-- A request that ends at once changes nothing; any other one takes over. -/
theorem request_awaits (ht : Tracked b latest) (h : Awaits b) {t : Turn}
    (hs : (∃ o, t = { pager := b.pager, progress := .ended o }) ∨
      ∃ aim offset, t = b.pager.fetch aim offset) : Awaits (b.request t).1 := by
  rcases hs with ⟨o, rfl⟩ | ⟨aim, offset, rfl⟩
  · refine ⟨h.loading_iff, fun w hm he => ?_⟩
    have hmade := ht.made w hm
    simp only [request, afterTurn, List.foldl_nil] at he
    omega
  · rw [request_fetch]
    refine ⟨iff_of_true rfl ⟨(b.requests, ⟨b.pager.fetches + 1, aim⟩), by simp, rfl⟩,
      fun w hm he => ?_⟩
    rcases List.mem_append.mp hm with hm | hm
    · have hmade := ht.made w hm
      simp only at he
      omega
    · rw [List.mem_singleton] at hm
      rw [hm]; rfl

theorem asked_awaits (ht : Tracked b latest) (h : Awaits b) {record : Bool} {t : Turn}
    (ha : b.pager.Asked record t) : Awaits (b.request t).1 := by
  cases ha with
  | ended o _ => exact request_awaits ht h (Or.inl ⟨o, rfl⟩)
  | fetched n _ _ => exact request_awaits ht h (Or.inr ⟨_, _, rfl⟩)

theorem reply_awaits (ht : Tracked b latest) (h : Awaits b) (hm : b.pager.mounted = true) (r : Nat)
    (reply : Except ServerError ItemPage) : Awaits (b.step (.reply r reply)).1 := by
  cases hw : b.waiting.lookup r with
  | none => rw [step_reply_of_none hw]; exact h
  | some ticket =>
    have hmem := mem_of_lookup hw
    have hl := ht.latest_iff _ hmem
    rw [step_reply_of_some hw]
    by_cases hc : b.pager.isCurrent ticket = true
    · have hnum : ticket.number = b.pager.fetches := by
        unfold Pager.isCurrent at hc
        rw [Bool.and_eq_true, decide_eq_true_eq] at hc
        exact hc.2.symm
      -- no other request has the ticket of the latest fetch
      have hlt : ∀ w ∈ b.waiting.filter (·.1 ≠ r), w.2.number < b.pager.fetches := by
        intro w hf
        obtain ⟨hwm, hne⟩ := List.mem_filter.mp hf
        have hle := ht.numbered w hwm
        have hiff := ht.latest_iff w hwm
        rw [hl.mp hnum, Option.some.injEq] at hiff
        have hne' : w.1 ≠ r := by simpa using hne
        have : w.2.number ≠ b.pager.fetches := fun he => hne' (hiff.mp he).symm
        omega
      have hnewest : ∀ w ∈ b.waiting.filter (·.1 ≠ r), w.1 + 1 ≠ b.requests := by
        intro w hf he
        have h1 := h.newest w (List.mem_of_mem_filter hf) he
        have h2 := hlt w hf
        omega
      exact afterTurn_awaits (b := { b with waiting := b.waiting.filter (·.1 ≠ r) }) hlt hnewest
        (Pager.receive_signals hc b.pageText reply)
    · have hnum : ticket.number ≠ b.pager.fetches := by
        intro he
        apply hc
        unfold Pager.isCurrent
        rw [hm, he]
        simp
      rw [Pager.receive_late _ _ (by simpa using hc)]
      refine ⟨h.loading_iff.trans ⟨?_, ?_⟩, fun w hf => h.newest w (List.mem_of_mem_filter hf)⟩
      · rintro ⟨w, hwm, he⟩
        refine ⟨w, List.mem_filter.mpr ⟨hwm, ?_⟩, he⟩
        have hne : w.1 ≠ r := by
          rintro rfl
          exact hnum (hl.mpr ((ht.latest_iff w hwm).mp he))
        simpa using hne
      · rintro ⟨w, hf, he⟩
        exact ⟨w, List.mem_of_mem_filter hf, he⟩

/-- **Every step keeps the flag right** while the pager is open, a seed only if nothing waits. -/
theorem step_awaits (ht : Tracked b latest) (h : Awaits b) (hm : b.pager.mounted = true)
    {e : Event} (hc : e ≠ .close) (hseed : ∀ total items, e = .seed total items → b.waiting = []) :
    Awaits (b.step e).1 := by
  cases e with
  | seed total items =>
    have hw := hseed total items rfl
    refine ⟨iff_of_false ?_ ?_, fun w hwm => ?_⟩
    · simp [step, Pager.seed, Pager.seeded, PageState.settle]
    · simp [step, hw]
    · simp only [step, hw] at hwm
      exact (List.not_mem_nil hwm).elim
  | «open» =>
    refine request_awaits ht h (Or.inr ⟨.opening, 0, ?_⟩)
    rw [Pager.open, if_pos hm]
  | goTo target record => exact asked_awaits ht h (Pager.goTo_asked _ _ _)
  | older => exact asked_awaits ht h (Pager.older_asked _)
  | newer => exact asked_awaits ht h (Pager.newer_asked _)
  | follow => exact asked_awaits ht h (Pager.follow_asked _ _)
  | remove identity =>
    simp only [step, Pager.remove]
    split_ifs
    · exact ⟨h.loading_iff, h.newest⟩
    · exact h
  | close => exact absurd rfl hc
  | move m => exact ⟨h.loading_iff, h.newest⟩
  | type parameter => exact ⟨h.loading_iff, h.newest⟩
  | reply r reply => exact reply_awaits ht h hm r reply

end Awaits

/-! ## Whole runs -/

theorem step_waiting_nil {b : Browser} (hw : b.waiting = []) {e : Event}
    (h : e.isRequest = false) : (b.step e).1.waiting = [] := by
  cases e with
  | seed total items => exact hw
  | remove identity => simp only [step]; exact hw
  | close => exact hw
  | move m => exact hw
  | type parameter => exact hw
  | reply r reply =>
    have hl : b.waiting.lookup r = none := by rw [hw]; rfl
    rw [step_reply_of_none hl]
    exact hw
  | _ => simp [Event.isRequest] at h

theorem run_waiting_nil {b : Browser} (hw : b.waiting = []) {es : List Event}
    (h : ∀ e ∈ es, e.isRequest = false) : (b.run es).1.waiting = [] := by
  induction es generalizing b with
  | nil => exact hw
  | cons e es ih =>
    exact ih (step_waiting_nil hw (h e (by simp))) fun e' he => h e' (List.mem_cons_of_mem _ he)

theorem run_awaits (config : PagerConfig) (observed : Bool) (bar : AddressBar) {es : List Event}
    (hs : SeedsFirst es) (hc : .close ∉ es) :
    Awaits ((fresh config observed bar).run es).1 := by
  induction es using List.reverseRecOn with
  | nil => exact ⟨by simp [run, fresh], fun w hw => by simp [run, fresh] at hw⟩
  | append_singleton es e ih =>
    rw [List.mem_append, not_or] at hc
    have ht := run_tracked (b := fresh config observed bar) (tracked_of_waiting_nil rfl) es
    have hm := (run_mounted (fresh config observed bar) es).mpr ⟨rfl, hc.1⟩
    rw [run_append]
    refine step_awaits ht (ih (seedsFirst_of_append hs) hc.1) hm (fun he => hc.2 (by simp [he])) ?_
    rintro total items rfl
    exact run_waiting_nil rfl (hs es total items [] rfl)

theorem step_button_of_loading {b : Browser} (h : b.pager.state.status = .loading) {e : Event}
    (he : e = .older ∨ e = .newer) :
    b.step e = ({ b with requests := b.requests + 1 }, [], .ended b.requests .unchanged) := by
  rcases he with rfl | rfl
  · simp [step, request, afterTurn, Pager.older, PageState.canGoOlder, PageState.loading, h]
  · simp [step, request, afterTurn, Pager.newer, PageState.canGoNewer, PageState.loading, h]

/-- **The loading flag is exact.** At the end of every run in which the pager is not closed and
nothing is seeded after the first request, the pager says that it loads exactly if the request that
issued the latest fetch is still waiting for its reply. So it does not when nothing is under way.
While that request waits, and in particular while the request made last waits, the buttons end
unchanged at once and issue no fetch. -/
theorem loading_iff {config : PagerConfig} {observed : Bool} {bar : AddressBar}
    {events : List Event} (hs : SeedsFirst events) (hc : .close ∉ events) {b : Browser}
    {log : List Entry} (h : (fresh config observed bar).run events = (b, log)) :
    (b.pager.state.loading = true ↔
      ∃ request, lastFetcher log = some request ∧ request ∈ b.waiting.map Prod.fst) ∧
    (b.waiting = [] → b.pager.state.loading = false) ∧
    ∀ request ∈ b.waiting.map Prod.fst,
      lastFetcher log = some request ∨ request + 1 = b.requests → ∀ e, e = .older ∨ e = .newer →
        b.step e = ({ b with requests := b.requests + 1 }, [], .ended b.requests .unchanged) := by
  have ht := run_tracked (b := fresh config observed bar) (tracked_of_waiting_nil rfl) events
  have ha := run_awaits config observed bar hs hc
  rw [h] at ht ha
  simp only [Option.or_none] at ht
  have hiff : b.pager.state.status = .loading ↔
      ∃ request, lastFetcher log = some request ∧ request ∈ b.waiting.map Prod.fst := by
    rw [ha.loading_iff]
    constructor
    · rintro ⟨w, hw, hn⟩
      exact ⟨w.1, (ht.latest_iff w hw).mp hn, List.mem_map_of_mem hw⟩
    · rintro ⟨request, hl, hr⟩
      obtain ⟨w, hw, rfl⟩ := List.mem_map.mp hr
      exact ⟨w, hw, (ht.latest_iff w hw).mpr hl⟩
  refine ⟨by rw [PageState.loading, decide_eq_true_eq, hiff], fun hw => ?_, ?_⟩
  · rw [PageState.loading, decide_eq_false_iff_not, hiff, hw]
    rintro ⟨request, -, hr⟩
    simp at hr
  · intro request hr hl e he
    refine step_button_of_loading ?_ he
    obtain ⟨w, hw, rfl⟩ := List.mem_map.mp hr
    rcases hl with hl | hl
    · exact hiff.mpr ⟨w.1, hl, hr⟩
    · exact ha.loading_iff.mpr ⟨w, hw, ha.newest w hw hl⟩

/-- Two pages of thirty are asked for, one after the other, and the first reply is an error: it
comes too late, and the second one is still awaited. -/
theorem loading_iff_of_two_requests :
    let events := [.seed 60 [], .goTo 2 true, .goTo 3 true, .reply 0 (.error (.network ""))]
    let r := (fresh ⟨"rob", "pinned recordings", 2⟩ false (.start none)).run events
    r.1.pager.state.loading = true ∧ lastFetcher r.2 = some 1 ∧
      r.1.step .older = ({ r.1 with requests := r.1.requests + 1 }, [], .ended 2 .unchanged) := by
  intro events r
  have hs : SeedsFirst events := by
    intro before total items after he e hm
    match before with
    | [] => simp at hm
    | [x] => simp [events] at he
    | [x, y] => simp [events] at he
    | [x, y, z] => simp [events] at he
    | x :: y :: z :: u :: rest => simp [events] at he
  have hr : (fresh ⟨"rob", "pinned recordings", 2⟩ false (.start none)).run events = (r.1, r.2) :=
    rfl
  have h := loading_iff hs (by simp [events]) hr
  exact ⟨h.1.mpr ⟨1, rfl, by decide⟩, rfl, h.2.2 1 (by decide) (Or.inl rfl) .older (Or.inl rfl)⟩

end Browser

end ListenDeck
