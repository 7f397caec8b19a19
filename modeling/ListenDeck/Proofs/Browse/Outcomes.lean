import ListenDeck.Proofs.Browse.Accounts
import ListenDeck.Proofs.Browse.LastWins
import ListenDeck.Proofs.Browse.Loading

/-!
# The outcomes of a run

The notices and the entries of a whole run, accounted for by the outcomes of its requests.

* `Browser.orders`: the requests of a run and the entries they are to make in the address bar.
* `Browser.endings`, `Browser.failures`: the outcomes of a run, and the reasons of its failures.
* `Browser.Turned`: a step is a turn of one request, or makes none and ends none (`step_turned`).
* `Browser.effects_accounted`: the notices and the entries of every run, in order.
-/

namespace ListenDeck

open PagerEffect

namespace Browser

/-! ## Requests and their outcomes -/

/-- The page of the entry that the request of an event is to make in the address bar. -/
def Event.target? (s : PageState) : Event → Option Nat
  | .goTo target true => some (max 1 (min target s.maxPage)).toNat
  | .older => some (s.page + 1)
  | .newer => some (s.page - 1)
  | _ => none

/-- The reply that comes. -/
def Event.reply? : Event → Option (Except ServerError ItemPage)
  | .reply _ r => some r
  | _ => none

/-- A request by its number, and the page of the entry it is to make in the address bar. -/
abbrev Order := Nat × Option Nat

/-- The request that an event makes. -/
def order? (b : Browser) (e : Event) : Option Order :=
  if e.isRequest then some (b.requests, e.target? b.pager.state) else none

/-- The requests of a run, in the order in which they are made. -/
def orders : Browser → List Event → List Order
  | _, [] => []
  | b, e :: es => (b.order? e).toList ++ orders (b.step e).1 es

/-- The page of the entry that a request is to make. -/
def targetOf (os : List Order) (request : Nat) : Option Nat := (os.lookup request).join

/-- The request that ended, and its outcome. -/
def ending? (entry : Entry) : Option (Nat × Outcome) :=
  match entry.2 with
  | .ended request outcome => some (request, outcome)
  | _ => none

/-- The requests that ended, in the order in which they did, with their outcomes. -/
def endings (log : List Entry) : List (Nat × Outcome) := log.filterMap ending?

/-- The requests that ended with an outcome, in the order in which they did. -/
def ended (outcome : Outcome) (log : List Entry) : List Nat :=
  ((endings log).filter (·.2 = outcome)).map Prod.fst

/-- The request that failed, and why. -/
def failure? (e : Event) (entry : Entry) : Option (Nat × ServerError) :=
  match entry.2, e.reply? with
  | .ended request .failed, some (.error e) => some (request, e)
  | _, _ => none

/-- The requests that failed, in the order in which they did, and why. -/
def failures (events : List Event) (log : List Entry) : List (Nat × ServerError) :=
  (events.zip log).filterMap fun x => failure? x.1 x.2

theorem ended_cons (outcome : Outcome) (entry : Entry) (log : List Entry) :
    ended outcome (entry :: log) = ended outcome [entry] ++ ended outcome log := by
  unfold ended endings
  rw [← List.singleton_append, List.filterMap_append, List.filter_append, List.map_append]

theorem failures_cons (e : Event) (events : List Event) (entry : Entry) (log : List Entry) :
    failures (e :: events) (entry :: log) =
      (failure? e entry).toList ++ failures events log := by
  unfold failures
  rw [List.zip_cons_cons, List.filterMap_cons]
  cases failure? e entry <;> rfl

theorem ended_of_ending? {entry : Entry} {r : Nat} {o : Outcome}
    (h : ending? entry = some (r, o)) : entry.2 = .ended r o := by
  unfold ending? at h
  split at h
  · rename_i heq
    cases h
    exact heq
  · cases h

theorem request?_of_ending? {entry : Entry} {x : Nat × Outcome} (h : ending? entry = some x) :
    entry.2.request? = some x.1 := by
  rw [ended_of_ending? h]; rfl

theorem request?_of_mem_ended {outcome : Outcome} {entry : Entry} {r : Nat}
    (h : r ∈ ended outcome [entry]) : entry.2.request? = some r := by
  obtain ⟨x, hx, rfl⟩ := List.mem_map.mp h
  obtain ⟨entry', he, hending⟩ := List.mem_filterMap.mp (List.mem_of_mem_filter hx)
  rw [List.mem_singleton.mp he] at hending
  exact request?_of_ending? hending

theorem ended_of_silent {outcome : Outcome} {entry : Entry} (h : entry.2.request? = none) :
    ended outcome [entry] = [] := by
  refine List.eq_nil_iff_forall_not_mem.mpr fun r hr => ?_
  rw [request?_of_mem_ended hr] at h
  cases h

theorem failure?_of_silent (e : Event) {entry : Entry} (h : entry.2.request? = none) :
    failure? e entry = none := by
  unfold failure?
  split
  · rename_i heq _
    rw [heq] at h
    cases h
  · rfl

/-! ## A turn and its entry in the log -/

theorem afterTurn_request? (b : Browser) (r : Nat) (t : Turn) :
    (b.afterTurn r t).2.2.request? = some r := by
  unfold afterTurn
  cases t.progress <;> rfl

section Turn
variable {b : Browser} {target : Option Nat} {e : Event} {t : Turn}
  (h : b.pager.Accounted target e.reply? t) (r : Nat)
include h

theorem afterTurn_pushes : pushes (b.afterTurn r t).2.1 =
    (ended .loaded [(b.afterTurn r t).2]).filterMap fun _ => target := by
  unfold afterTurn
  cases h with
  | idle o ho ht => rcases ho with rfl | rfl <;> subst ht <;> rfl
  | waits ticket hp _ hs _ => rw [hp]; exact hs
  | loaded hp hs _ => rw [hp]; exact hs.trans (by cases target <;> rfl)
  | empty _ hp hs _ _ => rw [hp]; exact hs
  | failed e _ hp hs _ _ => rw [hp]; exact hs

theorem afterTurn_notices : notices (b.afterTurn r t).2.1 =
    (failure? e (b.afterTurn r t).2).toList.map fun f => b.pager.failureNotice f.2 := by
  unfold afterTurn
  cases h with
  | idle o ho ht => rcases ho with rfl | rfl <;> subst ht <;> rfl
  | waits ticket hp _ _ hn => rw [hp]; exact hn
  | loaded hp _ hn => rw [hp]; exact hn
  | empty _ hp _ hn _ => rw [hp]; exact hn
  | failed e he hp _ hn _ => rw [failure?, hp, he]; exact hn

theorem afterTurn_failure : ((failure? e (b.afterTurn r t).2).toList.map Prod.fst) =
    ended .failed [(b.afterTurn r t).2] := by
  unfold afterTurn
  cases h with
  | idle o ho ht => rcases ho with rfl | rfl <;> subst ht <;> rfl
  | waits ticket hp _ _ _ => rw [hp]; rfl
  | loaded hp _ _ => rw [hp]; rfl
  | empty _ hp _ _ _ => rw [hp]; rfl
  | failed e he hp _ _ _ => rw [failure?, hp, he]; rfl

end Turn

/-! ## Steps -/

/-- The requests that wait are known with the entries they are to make. -/
structure Ordered (b : Browser) (os : List Order) : Prop where
  lookup : ∀ w ∈ b.waiting, os.lookup w.1 = some w.2.aim.target?
  made : ∀ o ∈ os, o.1 < b.requests

theorem lookup_append_of_some {os : List Order} {r : Nat} {target : Option Nat}
    (h : os.lookup r = some target) (os' : List Order) : (os ++ os').lookup r = some target := by
  rw [List.lookup_append, h]; rfl

/-- **What a step is**: it makes no request and ends none, or it is a turn of one request, which
waited before or is made now. -/
inductive Turned (b : Browser) (os : List Order) (e : Event) : Prop where
  | silent (ho : b.order? e = none) (hr : (b.step e).2.2.request? = none)
      (hw : (b.step e).1.waiting = b.waiting) (hq : (b.step e).1.requests = b.requests)
      (hs : pushes (b.step e).2.1 = []) (hn : notices (b.step e).2.1 = [])
  | turn (r : Nat) (target : Option Nat) (b₀ : Browser) (t : Turn)
      (hs : b.step e = b₀.afterTurn r t) (hp : b₀.pager = b.pager)
      (hw : b₀.waiting.Sublist b.waiting) (hr : ∀ w ∈ b₀.waiting, w.1 ≠ r)
      (hm : r ∈ b.waiting.map Prod.fst ∧ b₀.requests = b.requests ∧
          (∃ reply, e = .reply r reply) ∨
        r = b.requests ∧ b₀.requests = b.requests + 1 ∧ e.isRequest = true)
      (ht : (os ++ (b.order? e).toList).lookup r = some target)
      (ha : b.pager.Accounted target e.reply? t)

section Step
variable {b : Browser} {os : List Order}

theorem lookup_order (h : Ordered b os) {e : Event} (he : e.isRequest = true) :
    (os ++ (b.order? e).toList).lookup b.requests = some (e.target? b.pager.state) := by
  have hnone : os.lookup b.requests = none := by
    rw [List.lookup_eq_none_iff]
    intro o ho
    have := h.made o ho
    simp only [bne_iff_ne, ne_eq]
    omega
  rw [List.lookup_append, hnone, order?, if_pos he]
  simp

theorem request_turned (hm : b.Made) (h : Ordered b os) {e : Event} (he : e.isRequest = true)
    {t : Turn} (hs : b.step e = b.request t)
    (ha : b.pager.Accounted (e.target? b.pager.state) e.reply? t) : Turned b os e :=
  .turn b.requests _ { b with requests := b.requests + 1 } t hs rfl (List.Sublist.refl _)
    (fun w hw => Nat.ne_of_lt (hm w hw)) (Or.inr ⟨rfl, rfl, he⟩)
    (lookup_order h he) ha

theorem step_turned (hm : b.Made) (h : Ordered b os) (hw : b.pager.state.Within) (e : Event) :
    Turned b os e := by
  cases e with
  | seed total items =>
    exact .silent rfl rfl rfl rfl (Pager.pushes_observation _) (Pager.notices_observation _)
  | «open» => exact request_turned hm h rfl rfl Pager.open_accounted
  | goTo n record =>
    refine request_turned hm h rfl rfl ?_
    cases record
    · exact Pager.goTo_accounted n false
    · exact Pager.goTo_accounted n true
  | older => exact request_turned hm h rfl rfl Pager.older_accounted
  | newer => exact request_turned hm h rfl rfl (Pager.newer_accounted hw)
  | follow => exact request_turned hm h rfl rfl (Pager.follow_accounted hw _)
  | remove identity =>
    by_cases hi : b.pager.state.items.any (·.identity = identity) = true
    · refine .silent rfl ?_ ?_ ?_ ?_ ?_ <;> simp only [step, Pager.remove, if_pos hi]
      · rfl
      · exact Pager.pushes_observation _
      · exact Pager.notices_observation _
    · refine .silent rfl ?_ ?_ ?_ ?_ ?_ <;> simp only [step, Pager.remove, if_neg hi] <;> rfl
  | close => exact .silent rfl rfl rfl rfl rfl rfl
  | move m => exact .silent rfl (by cases m <;> rfl) rfl rfl rfl rfl
  | type parameter => exact .silent rfl rfl rfl rfl rfl rfl
  | reply r reply =>
    cases hl : b.waiting.lookup r with
    | none =>
      have hs := step_reply_of_none hl reply
      refine .silent rfl ?_ ?_ ?_ ?_ ?_ <;> rw [hs] <;> rfl
    | some ticket =>
      have hmem := mem_of_lookup hl
      refine .turn r ticket.aim.target? { b with waiting := b.waiting.filter (·.1 ≠ r) } _
        (step_reply_of_some hl reply) rfl List.filter_sublist ?_
        (Or.inl ⟨List.mem_map_of_mem hmem, rfl, reply, rfl⟩)
        (lookup_append_of_some (h.lookup _ hmem) _) (Pager.receive_accounted hw _ _ _)
      intro w hf
      simpa using (List.mem_filter.mp hf).2

theorem mem_afterTurn_waiting {b₀ : Browser} {r : Nat} {t : Turn} {w : Nat × Ticket}
    (h : w ∈ (b₀.afterTurn r t).1.waiting) :
    w ∈ b₀.waiting ∨ w.1 = r ∧ t.progress = .waiting w.2 := by
  cases hp : t.progress with
  | ended o =>
    rw [afterTurn_waiting_of_ended _ _ hp] at h
    exact Or.inl h
  | waiting ticket =>
    rw [afterTurn_waiting_of_waiting _ _ hp, List.mem_append, List.mem_singleton] at h
    refine h.imp_right fun he => ?_
    subst he
    exact ⟨rfl, rfl⟩

/-- **Every step keeps the requests known.** -/
theorem step_ordered (hm : b.Made) (h : Ordered b os) (hw : b.pager.state.Within) (e : Event) :
    Ordered (b.step e).1 (os ++ (b.order? e).toList) := by
  rcases step_turned hm h hw e with
    ⟨ho, -, hwait, hq, -, -⟩ | ⟨r, target, b₀, t, hs, -, hsub, -, hold, ht, ha⟩
  · rw [ho, Option.toList_none, List.append_nil]
    refine ⟨fun w hmem => h.lookup w ?_, fun o hmem => ?_⟩
    · rwa [hwait] at hmem
    · rw [hq]; exact h.made o hmem
  · rw [hs]
    refine ⟨fun w hmem => ?_, fun o hmem => ?_⟩
    · rcases mem_afterTurn_waiting hmem with hold' | ⟨rfl, hp⟩
      · exact lookup_append_of_some (h.lookup w (hsub.subset hold')) _
      · rw [ht, ha.target_of_waiting hp]
    · rw [afterTurn_requests]
      rcases List.mem_append.mp hmem with hmem | hmem
      · have := h.made o hmem
        rcases hold with ⟨-, hq, -⟩ | ⟨-, hq, -⟩ <;> omega
      · rcases hold with ⟨-, -, reply, rfl⟩ | ⟨-, hq, -⟩
        · cases hmem
        · rw [Option.mem_toList, order?] at hmem
          split_ifs at hmem
          cases hmem
          omega

/-- **The entries of a step**: the one of the request that ended loaded, if it is to make one. -/
theorem step_pushes (hm : b.Made) (h : Ordered b os) (hw : b.pager.state.Within) (e : Event)
    (os' : List Order) : pushes (b.step e).2.1 =
      (ended .loaded [(b.step e).2]).filterMap (targetOf (os ++ (b.order? e).toList ++ os')) := by
  rcases step_turned hm h hw e with
    ⟨-, hr, -, -, hs, -⟩ | ⟨r, target, b₀, t, hs, hp, -, -, -, ht, ha⟩
  · rw [hs, ended_of_silent hr]
    rfl
  · rw [← hp] at ha
    rw [hs, afterTurn_pushes ha r]
    refine List.filterMap_congr fun r' hr' => ?_
    have hreq := request?_of_mem_ended hr'
    rw [afterTurn_request?, Option.some.injEq] at hreq
    rw [← hreq, targetOf, lookup_append_of_some ht]
    rfl

/-- **The notices of a step**: one for the request that failed. -/
theorem step_notices (hm : b.Made) (h : Ordered b os) (hw : b.pager.state.Within) (e : Event) :
    notices (b.step e).2.1 =
      (failure? e (b.step e).2).toList.map (fun f => b.pager.failureNotice f.2) ∧
    (failure? e (b.step e).2).toList.map Prod.fst = ended .failed [(b.step e).2] := by
  rcases step_turned hm h hw e with
    ⟨-, hr, -, -, -, hn⟩ | ⟨r, target, b₀, t, hs, hp, -, -, -, -, ha⟩
  · rw [hn, ended_of_silent hr, failure?_of_silent e hr]
    exact ⟨rfl, rfl⟩
  · rw [← hp] at ha
    rw [hs, ← hp]
    exact ⟨afterTurn_notices ha r, afterTurn_failure ha r⟩

theorem progress_of_ended {b₀ : Browser} {r r' : Nat} {t : Turn} {o : Outcome}
    (h : (b₀.afterTurn r' t).2.2 = .ended r o) : t.progress = .ended o := by
  unfold afterTurn at h
  cases hp : t.progress with
  | ended o' => rw [hp] at h; cases h; rfl
  | waiting ticket => rw [hp] at h; cases h

theorem progress_of_waiting {b₀ : Browser} {r r' : Nat} {t : Turn}
    (h : (b₀.afterTurn r' t).2.2 = .waiting r) : ∃ ticket, t.progress = .waiting ticket := by
  unfold afterTurn at h
  cases hp : t.progress with
  | ended o => rw [hp] at h; cases h
  | waiting ticket => exact ⟨ticket, rfl⟩

theorem turn_of_ended (hm : b.Made) (h : Ordered b os) (hw : b.pager.state.Within) {e : Event}
    {r : Nat} {o : Outcome} (he : (b.step e).2.2 = .ended r o) : ∃ target b₀ t,
    b.step e = afterTurn b₀ r t ∧ t.progress = .ended o ∧ (∀ w ∈ b₀.waiting, w.1 ≠ r) ∧
      (r ∈ b.waiting.map Prod.fst ∧ b₀.requests = b.requests ∧ (∃ reply, e = .reply r reply) ∨
        r = b.requests ∧ b₀.requests = b.requests + 1 ∧ e.isRequest = true) ∧
      b.pager.Accounted target e.reply? t := by
  rcases step_turned hm h hw e with
    ⟨-, hr, -, -, -, -⟩ | ⟨r', target, b₀, t, hs, -, -, hne, hold, -, ha⟩
  · rw [he] at hr
    cases hr
  · have hreq := afterTurn_request? b₀ r' t
    rw [← hs, he] at hreq
    cases hreq
    rw [hs] at he
    exact ⟨target, b₀, t, hs, progress_of_ended he, hne, hold, ha⟩

theorem step_ending (hm : b.Made) (h : Ordered b os) (hw : b.pager.state.Within) {e : Event}
    {r : Nat} {o : Outcome} (he : (b.step e).2.2 = .ended r o) :
    r ∉ (b.step e).1.waiting.map Prod.fst ∧ r < (b.step e).1.requests ∧
      (r ∈ b.waiting.map Prod.fst ∨ b.requests ≤ r) := by
  obtain ⟨target, b₀, t, hs, hend, hne, hold, -⟩ := turn_of_ended hm h hw he
  rw [hs, afterTurn_waiting_of_ended _ _ hend, afterTurn_requests]
  refine ⟨?_, ?_, ?_⟩
  · rintro hmem
    obtain ⟨w, hw', rfl⟩ := List.mem_map.mp hmem
    exact hne w hw' rfl
  · rcases hold with ⟨hmem, hq, -⟩ | ⟨rfl, hq, -⟩
    · obtain ⟨w, hw', rfl⟩ := List.mem_map.mp hmem
      rw [hq]
      exact hm w hw'
    · omega
  · exact hold.imp (fun h => h.1) fun h => h.1.ge

theorem step_waiting (hm : b.Made) (h : Ordered b os) (hw : b.pager.state.Within) (e : Event) :
    b.requests ≤ (b.step e).1.requests ∧ ∀ r ∈ (b.step e).1.waiting.map Prod.fst,
      r ∈ b.waiting.map Prod.fst ∨ b.requests ≤ r := by
  rcases step_turned hm h hw e with
    ⟨-, -, hwait, hq, -, -⟩ | ⟨r, target, b₀, t, hs, -, hsub, -, hold, -, -⟩
  · exact ⟨hq.ge, fun r hr => Or.inl (hwait ▸ hr)⟩
  · rw [hs, afterTurn_requests]
    refine ⟨?_, fun r' hr' => ?_⟩
    · rcases hold with ⟨-, hq, -⟩ | ⟨-, hq, -⟩ <;> omega
    · obtain ⟨w, hw', rfl⟩ := List.mem_map.mp hr'
      rcases mem_afterTurn_waiting hw' with hw' | ⟨rfl, -⟩
      · exact Or.inl (List.mem_map_of_mem (hsub.subset hw'))
      · exact hold.imp (fun h => h.1) fun h => h.1.ge

/-- A request that ends without a page, or fails, does so with a reply, and the page stays. -/
theorem step_kept (hm : b.Made) (h : Ordered b os) (hw : b.pager.state.Within) {e : Event}
    {r : Nat} {o : Outcome} (he : (b.step e).2.2 = .ended r o) (ho : o = .empty ∨ o = .failed) :
    (∃ reply, e = .reply r reply) ∧ b.pager.SamePage (b.step e).1.pager := by
  obtain ⟨target, b₀, t, hs, hend, -, hold, ha⟩ := turn_of_ended hm h hw he
  rw [hs, afterTurn_pager]
  rcases ha.of_ended hend with ⟨hidle, -⟩ | rfl | ⟨-, hreply, hkept⟩
  · rcases ho with rfl | rfl <;> simp at hidle
  · simp at ho
  · refine ⟨?_, hkept⟩
    rcases hold with ⟨-, -, hrep⟩ | ⟨-, -, hreq⟩
    · exact hrep
    · cases e with
      | reply _ _ => cases hreq
      | _ => exact absurd rfl hreply

/-- A request that ends unchanged or discarded does nothing else. -/
theorem step_idle (hm : b.Made) (h : Ordered b os) (hw : b.pager.state.Within) {e : Event}
    {r : Nat} {o : Outcome} (he : (b.step e).2.2 = .ended r o)
    (ho : o = .unchanged ∨ o = .discarded) :
    (b.step e).2.1 = [] ∧ (b.step e).1.pager = b.pager := by
  obtain ⟨target, b₀, t, hs, hend, -, -, ha⟩ := turn_of_ended hm h hw he
  rcases ha.of_ended hend with ⟨-, ht⟩ | rfl | ⟨hkept, -, -⟩
  · rw [hs, afterTurn_pager, ht]
    exact ⟨rfl, rfl⟩
  · simp at ho
  · rcases ho with rfl | rfl <;> simp at hkept

end Step

theorem step_reply_first {b : Browser} {r : Nat} {reply : Except ServerError ItemPage}
    (h : (b.step (.reply r reply)).2.2 = .waiting r) :
    ∃ page, reply = .ok page ∧ (b.step (.reply r reply)).1.pager.state =
      { page := 1, maxPage := pageCount page.total b.pager.config.pageSize
        items := page.items.take b.pager.config.pageSize, status := .loading } := by
  cases hl : b.waiting.lookup r with
  | none => rw [step_reply_of_none hl] at h; cases h
  | some ticket =>
    rw [step_reply_of_some hl] at h ⊢
    rw [afterTurn_pager]
    obtain ⟨ticket', hp⟩ := progress_of_waiting h
    obtain ⟨page, rfl, hs⟩ := Pager.receive_waits hp
    exact ⟨page, rfl, hs⟩

/-! ## Whole runs -/

theorem failureNotice_congr {p q : Pager} (h : p.config = q.config) (e : ServerError) :
    p.failureNotice e = q.failureNotice e := by
  unfold Pager.failureNotice
  rw [h]

theorem fresh_ordered (config : PagerConfig) (observed : Bool) (bar : AddressBar) :
    Ordered (fresh config observed bar) [] :=
  ⟨fun _ hw => absurd hw List.not_mem_nil, fun _ ho => absurd ho List.not_mem_nil⟩

section Run
variable {b : Browser} {os : List Order} {latest : Option Nat}

theorem run_ordered (ht : Tracked b latest) (h : Ordered b os) (hw : b.pager.state.Within)
    (es : List Event) : Ordered (b.run es).1 (os ++ orders b es) := by
  induction es generalizing b os latest with
  | nil => rw [orders, List.append_nil]; exact h
  | cons e es ih =>
    have := ih (step_tracked ht e) (step_ordered ht.made h hw e) (step_within hw e)
    rwa [List.append_assoc] at this

theorem run_pushes (ht : Tracked b latest) (h : Ordered b os) (hw : b.pager.state.Within)
    (es : List Event) : pushes (effectsOf (b.run es).2) =
      (ended .loaded (b.run es).2).filterMap (targetOf (os ++ orders b es)) := by
  induction es generalizing b os latest with
  | nil => rfl
  | cons e es ih =>
    have htail := ih (step_tracked ht e) (step_ordered ht.made h hw e) (step_within hw e)
    have hhead := step_pushes ht.made h hw e (orders (b.step e).1 es)
    rw [List.append_assoc] at htail hhead
    rw [run, ended_cons, List.filterMap_append, orders, ← htail, ← hhead, ← pushes_append]
    rfl

theorem run_notices (ht : Tracked b latest) (h : Ordered b os) (hw : b.pager.state.Within)
    (es : List Event) :
    notices (effectsOf (b.run es).2) =
      (failures es (b.run es).2).map (fun f => b.pager.failureNotice f.2) ∧
    (failures es (b.run es).2).map Prod.fst = ended .failed (b.run es).2 := by
  induction es generalizing b os latest with
  | nil => exact ⟨rfl, rfl⟩
  | cons e es ih =>
    obtain ⟨hn, hf⟩ := ih (step_tracked ht e) (step_ordered ht.made h hw e) (step_within hw e)
    obtain ⟨hn', hf'⟩ := step_notices ht.made h hw e
    have hc : ∀ f : Nat × ServerError,
        (b.step e).1.pager.failureNotice f.2 = b.pager.failureNotice f.2 :=
      fun f => failureNotice_congr (step_config b e) f.2
    simp only [hc] at hn
    rw [run, failures_cons, ended_cons, List.map_append, List.map_append, ← hn, hf, ← hn', hf',
      ← notices_append]
    exact ⟨rfl, rfl⟩

/-- **A request ends once at most.** -/
theorem run_endings (ht : Tracked b latest) (h : Ordered b os) (hw : b.pager.state.Within)
    (es : List Event) : ((endings (b.run es).2).map Prod.fst).Nodup ∧
      ∀ r ∈ (endings (b.run es).2).map Prod.fst, r ∈ b.waiting.map Prod.fst ∨ b.requests ≤ r := by
  induction es generalizing b os latest with
  | nil => exact ⟨List.nodup_nil, fun r hr => absurd hr List.not_mem_nil⟩
  | cons e es ih =>
    obtain ⟨hn, hr⟩ := ih (step_tracked ht e) (step_ordered ht.made h hw e) (step_within hw e)
    obtain ⟨hle, hwait⟩ := step_waiting ht.made h hw e
    have hrest : ∀ r ∈ (endings ((b.step e).1.run es).2).map Prod.fst,
        r ∈ b.waiting.map Prod.fst ∨ b.requests ≤ r := fun r hmem =>
      (hr r hmem).elim (hwait r) fun hge => Or.inr (hle.trans hge)
    rw [run, endings, List.filterMap_cons]
    cases he : ending? (b.step e).2 with
    | none => exact ⟨hn, hrest⟩
    | some x =>
      obtain ⟨r, o⟩ := x
      obtain ⟨hgone, hlt, hfrom⟩ := step_ending ht.made h hw (ended_of_ending? he)
      refine ⟨List.nodup_cons.mpr ⟨fun hmem => ?_, hn⟩, fun r' hmem => ?_⟩
      · -- what ends later waits now, or is made later
        rcases hr r hmem with hin | hge
        · exact hgone hin
        · exact absurd hlt (Nat.not_lt.mpr hge)
      · rcases List.mem_cons.mp hmem with rfl | hmem
        · exact hfrom
        · exact hrest r' hmem

end Run

/-- **Every effect is accounted for by an outcome.** In every run of a new browser each request ends
once at most. The notices are warnings, one for each request that failed, in the order in which they
did and with the reason the reply gave. The entries made in the address bar are those of the
requests that ended loaded, in the order in which they did: the page asked for with an entry,
brought within the pages there were, or the one a button led to, and none for any other request.
After the run, a request that ends empty or failed does so with a reply and leaves the page as it
was before that reply; one that goes on after a reply shows the first page by then; and one that
ends unchanged or discarded asks for nothing and changes nothing. -/
theorem effects_accounted {config : PagerConfig} {observed : Bool} {bar : AddressBar}
    {events : List Event} {b : Browser} {log : List Entry}
    (h : (fresh config observed bar).run events = (b, log)) :
    ((endings log).map Prod.fst).Nodup ∧
    (failures events log).map Prod.fst = ended .failed log ∧
    notices (effectsOf log) = (failures events log).map (fun f => b.pager.failureNotice f.2) ∧
    (∀ n ∈ notices (effectsOf log), n.kind = .warning) ∧
    pushes (effectsOf log) =
      (ended .loaded log).filterMap (targetOf (orders (fresh config observed bar) events)) ∧
    ∀ e r,
      (∀ o, o = .empty ∨ o = .failed → (b.step e).2.2 = .ended r o →
        (∃ reply, e = .reply r reply) ∧ b.pager.SamePage (b.step e).1.pager) ∧
      (∀ o, o = .unchanged ∨ o = .discarded → (b.step e).2.2 = .ended r o →
        (b.step e).2.1 = [] ∧ (b.step e).1.pager = b.pager) ∧
      (∀ reply, e = .reply r reply → (b.step e).2.2 = .waiting r → ∃ page, reply = .ok page ∧
        (b.step e).1.pager.state =
          { page := 1, maxPage := pageCount page.total config.pageSize
            items := page.items.take config.pageSize, status := .loading }) := by
  have ht := run_tracked (b := fresh config observed bar) (tracked_of_waiting_nil rfl) events
  have hw := run_within (fresh_within config observed bar) events
  have hc : (fresh config observed bar).pager.config = b.pager.config := by
    rw [← run_config (fresh config observed bar) events, h]
  have hnew : Tracked (fresh config observed bar) none := tracked_of_waiting_nil rfl
  have hfresh := fresh_ordered config observed bar
  have hin := fresh_within config observed bar
  have hord := run_ordered hnew hfresh hin events
  obtain ⟨hn, hf⟩ := run_notices hnew hfresh hin events
  have hp := run_pushes hnew hfresh hin events
  obtain ⟨hnodup, -⟩ := run_endings hnew hfresh hin events
  rw [h] at ht hw hord hn hf hp hnodup
  simp only [failureNotice_congr hc] at hn
  refine ⟨hnodup, hf, hn, ?_, hp, fun e r => ⟨fun o ho he => step_kept ht.made hord hw he ho,
    fun o ho he => step_idle ht.made hord hw he ho, ?_⟩⟩
  · rw [hn]
    intro n hmem
    obtain ⟨f, -, rfl⟩ := List.mem_map.mp hmem
    rfl
  · rintro reply rfl he
    have := step_reply_first he
    rwa [← hc] at this

/-- A list of six pins, two on a page: page 9 is asked for with an entry, which is page 3, and the
newer page after that cannot be loaded. -/
theorem effects_accounted_of_three_requests :
    let pins : ItemPage := { items := [.pin { rowId := 1 }, .pin { rowId := 2 }], total := 6 }
    let events := [.open, .reply 0 (.ok pins), .goTo 9 true, .reply 1 (.ok pins), .newer,
      .reply 2 (.error (.network "timeout"))]
    let r := (fresh ⟨"rob", "pinned recordings", 2⟩ false (.start none)).run events
    endings r.2 = [(0, .loaded), (1, .loaded), (2, .failed)] ∧
      pushes (effectsOf r.2) = [3] ∧
      notices (effectsOf r.2) = [r.1.pager.failureNotice (.network "timeout")] ∧
      (r.1.step (.goTo 3 true)).2.1 = [] := by
  intro pins events r
  have h : (fresh ⟨"rob", "pinned recordings", 2⟩ false (.start none)).run events = (r.1, r.2) :=
    (Prod.eta r).symm
  obtain ⟨-, -, hn, -, hp, hnext⟩ := effects_accounted h
  refine ⟨by decide, hp.trans (by decide), hn.trans (by decide), ?_⟩
  exact ((hnext (.goTo 3 true) 3).2.1 .unchanged (Or.inl rfl) (by decide)).1

end Browser

end ListenDeck
