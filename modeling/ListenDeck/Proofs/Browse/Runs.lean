import ListenDeck.Proofs.Browse.Turns

/-!
# The requests of a browser

Which requests wait for a reply, and which of them issued the latest fetch.

* `Browser.fetcher?`: the request that issued a fetch in a step; `Browser.lastFetcher` is the latest
  one in the log of a run.
* `Browser.Tracked`: the waiting requests are told apart by their numbers, and the ticket with the
  number of the latest fetch is the one of the latest fetcher. Every step keeps it (`step_tracked`),
  hence every run (`run_tracked`).
* `Browser.run_mounted`: a pager is mounted as long as it was not closed.
* `Browser.run_within`: the page shown is always one of the pages there are.
-/

namespace ListenDeck

/-- The effect is a fetch. -/
def PagerEffect.isFetch : PagerEffect → Bool
  | .fetch .. => true
  | _ => false

theorem Pager.unfetched_iff {effects : List PagerEffect} :
    Pager.Unfetched effects ↔ effects.any PagerEffect.isFetch = false := by
  rw [List.any_eq_false]
  constructor
  · intro h e he
    cases e with
    | fetch user offset count => exact absurd he (h user offset count)
    | _ => simp [PagerEffect.isFetch]
  · intro h user offset count he
    exact h _ he rfl

namespace Browser

/-- A browser with a new pager. -/
def fresh (config : PagerConfig) (observed : Bool) (bar : AddressBar) : Browser :=
  { pager := { config, observed }, bar }

/-- What an event led to: the effects and the answer. -/
abbrev Entry := List PagerEffect × Answer

/-- The request an answer is about. -/
def Answer.request? : Answer → Option Nat
  | .ended request _ => some request
  | .waiting request => some request
  | _ => none

/-- The request that issued a fetch, if one did. -/
def fetcher? (entry : Entry) : Option Nat :=
  if entry.1.any PagerEffect.isFetch then entry.2.request? else none

/-- The requests that issued fetches, in the order of the fetches. -/
def fetchers (log : List Entry) : List Nat := log.filterMap fetcher?

/-- The request that issued the latest fetch. -/
def lastFetcher (log : List Entry) : Option Nat := (fetchers log).getLast?

theorem lastFetcher_cons (x : Entry) (log : List Entry) :
    lastFetcher (x :: log) = (lastFetcher log).or (fetcher? x) := by
  unfold lastFetcher fetchers
  rw [List.filterMap_cons]
  cases fetcher? x with
  | none => simp
  | some r => rw [List.getLast?_cons]; cases (log.filterMap fetcher?).getLast? <;> rfl

/-! ## Runs -/

theorem run_append (b : Browser) (es fs : List Event) :
    b.run (es ++ fs) =
      (((b.run es).1.run fs).1, (b.run es).2 ++ ((b.run es).1.run fs).2) := by
  induction es generalizing b with
  | nil => rfl
  | cons e es ih => simp [run, ih]

/-! ## What a turn does to the address bar and to the waiting requests -/

section Effects
variable (effects : List PagerEffect) (b : Browser)

theorem foldl_applyEffect_eq :
    (effects.foldl applyEffect b).pager = b.pager ∧
      (effects.foldl applyEffect b).waiting = b.waiting ∧
      (effects.foldl applyEffect b).requests = b.requests := by
  induction effects generalizing b with
  | nil => exact ⟨rfl, rfl, rfl⟩
  | cons e es ih =>
    obtain ⟨h1, h2, h3⟩ := ih (b.applyEffect e)
    rw [List.foldl_cons, h1, h2, h3]
    cases e <;> exact ⟨rfl, rfl, rfl⟩

variable {effects}

theorem foldl_applyEffect_of_unwritten (h : Pager.Unwritten effects) :
    effects.foldl applyEffect b = b := by
  induction effects generalizing b with
  | nil => rfl
  | cons e es ih =>
    have he : b.applyEffect e = b := by
      cases e with
      | push page => exact absurd (by simp) (h page)
      | _ => rfl
    rw [List.foldl_cons, he]
    exact ih b fun page hp => h page (List.mem_cons_of_mem _ hp)

end Effects

theorem afterTurn_pager (b : Browser) (r : Nat) (t : Turn) :
    (b.afterTurn r t).1.pager = t.pager := by
  unfold afterTurn
  cases t.progress <;> exact (foldl_applyEffect_eq t.effects _).1

theorem afterTurn_effects (b : Browser) (r : Nat) (t : Turn) :
    (b.afterTurn r t).2.1 = t.effects := by
  unfold afterTurn
  cases t.progress <;> rfl

theorem afterTurn_requests (b : Browser) (r : Nat) (t : Turn) :
    (b.afterTurn r t).1.requests = b.requests := by
  unfold afterTurn
  cases t.progress <;> exact (foldl_applyEffect_eq t.effects _).2.2

/-! ## One step -/

/-- **What a step does to the waiting requests.** It issues no fetch, and at most some of them end;
or the request `r` issues the next fetch, for the page of its aim, and waits behind the others. -/
inductive Stepped (b b' : Browser) (entry : Entry) : Prop where
  | quiet (hf : b'.pager.fetches = b.pager.fetches) (hw : b'.waiting.Sublist b.waiting)
      (hr : b.requests ≤ b'.requests) (hu : Pager.Unfetched entry.1)
  | fetched (r : Nat) (aim : Aim) (rest : List (Nat × Ticket)) (es : List PagerEffect)
      (hs : rest.Sublist b.waiting) (hn : ∀ w ∈ rest, w.1 ≠ r)
      (hf : b'.pager.fetches = b.pager.fetches + 1)
      (hw : b'.waiting = rest ++ [(r, ⟨b.pager.fetches + 1, aim⟩)])
      (hr : b.requests ≤ b'.requests) (hlt : r < b'.requests) (hu : Pager.Unfetched es)
      (he : entry = (es ++ [.fetch b.pager.config.user (b.pager.startOf aim)
        b.pager.config.pageSize], .waiting r))

/-- The waiting requests have numbers of requests that were made. -/
def Made (b : Browser) : Prop := ∀ w ∈ b.waiting, w.1 < b.requests

theorem fetcher?_of_unfetched {entry : Entry} (h : Pager.Unfetched entry.1) :
    fetcher? entry = none := by
  unfold fetcher?
  rw [Pager.unfetched_iff.mp h]; rfl

theorem fetcher?_waiting (es : List PagerEffect) (user : String) (offset count r : Nat) :
    fetcher? (es ++ [.fetch user offset count], .waiting r) = some r := by
  simp [fetcher?, PagerEffect.isFetch, Answer.request?]

/-- After a turn its request has ended, or it waits behind the others with the ticket of the latest
fetch. -/
theorem afterTurn_stepped {b : Browser} {r : Nat} (hr : r < b.requests)
    (hn : ∀ w ∈ b.waiting, w.1 ≠ r) {t : Turn} (h : b.pager.Counted t) :
    Stepped b (b.afterTurn r t).1 (b.afterTurn r t).2 := by
  have hreq := afterTurn_requests b r t
  have hp := afterTurn_pager b r t
  have hw := (foldl_applyEffect_eq t.effects { b with pager := t.pager }).2.1
  cases h with
  | quiet o ho hf hu =>
    refine .quiet (by rw [hp, hf]) ?_ hreq.ge ?_
    · simp only [afterTurn, ho, hw]; exact List.Sublist.refl _
    · simp only [afterTurn, ho]; exact hu
  | fetched aim es ho hf hu he =>
    refine .fetched r aim b.waiting es (List.Sublist.refl _) hn (by rw [hp, hf]) ?_ hreq.ge
      (by rw [hreq]; exact hr) hu ?_
    · simp only [afterTurn, ho, hw]
    · simp only [afterTurn, ho, he]

theorem afterTurn_ended (b : Browser) (r : Nat) {t : Turn} {o : Outcome}
    (hp : t.progress = .ended o) (hu : Pager.Unwritten t.effects) :
    (b.afterTurn r t).1 = { b with pager := t.pager } := by
  simp only [afterTurn, hp, foldl_applyEffect_of_unwritten _ hu]

theorem afterTurn_waiting (b : Browser) (r : Nat) {t : Turn} {ticket : Ticket}
    (hp : t.progress = .waiting ticket) (hu : Pager.Unwritten t.effects) :
    (b.afterTurn r t).1 =
      { b with pager := t.pager, waiting := b.waiting ++ [(r, ticket)] } := by
  simp only [afterTurn, hp, foldl_applyEffect_of_unwritten _ hu]

theorem request_fetch (b : Browser) (aim : Aim) (offset : Nat) :
    (b.request (b.pager.fetch aim offset)).1 =
      { b with
        pager := (b.pager.fetch aim offset).pager
        waiting := b.waiting ++ [(b.requests, ⟨b.pager.fetches + 1, aim⟩)]
        requests := b.requests + 1 } :=
  afterTurn_waiting _ _ (Pager.fetch_progress _ _ _) (Pager.unwritten_fetch _ _ _)

theorem request_stepped {b : Browser} (hm : b.Made) {t : Turn} (h : b.pager.Counted t) :
    Stepped b (b.request t).1 (b.request t).2 := by
  have hs := afterTurn_stepped (b := { b with requests := b.requests + 1 }) (r := b.requests)
    (Nat.lt_succ_self _) (fun w hw => Nat.ne_of_lt (hm w hw)) h
  cases hs with
  | quiet hf hw hr hu => exact .quiet hf hw (Nat.le_of_succ_le hr) hu
  | fetched r aim rest es hs hn hf hw hr hlt hu he =>
    exact .fetched r aim rest es hs hn hf hw (Nat.le_of_succ_le hr) hlt hu he

theorem mem_of_lookup {waiting : List (Nat × Ticket)} {request : Nat} {ticket : Ticket}
    (h : waiting.lookup request = some ticket) : (request, ticket) ∈ waiting := by
  obtain ⟨l₁, l₂, hs, -⟩ := List.lookup_eq_some_iff.mp h
  rw [hs]; simp

theorem step_reply_of_none {b : Browser} {r : Nat} (h : b.waiting.lookup r = none)
    (reply : Except ServerError ItemPage) : b.step (.reply r reply) = (b, [], .silent) := by
  simp only [step, h]

theorem step_reply_of_some {b : Browser} {r : Nat} {ticket : Ticket}
    (h : b.waiting.lookup r = some ticket) (reply : Except ServerError ItemPage) :
    b.step (.reply r reply) =
      ({ b with waiting := b.waiting.filter (·.1 ≠ r) }).afterTurn r
        (b.pager.receive b.pageText ticket reply) := by
  simp only [step, h]

theorem lookup_append_of_made {b : Browser} (h : b.Made) (ticket : Ticket) :
    (b.waiting ++ [(b.requests, ticket)]).lookup b.requests = some ticket := by
  have hnone : b.waiting.lookup b.requests = none := by
    rw [List.lookup_eq_none_iff]
    intro w hw
    have := h w hw
    simp only [bne_iff_ne, ne_eq]
    omega
  rw [List.lookup_append, hnone]
  simp

theorem step_reply_stepped {b : Browser} (hm : b.Made) (r : Nat)
    (reply : Except ServerError ItemPage) :
    Stepped b (b.step (.reply r reply)).1 (b.step (.reply r reply)).2 := by
  simp only [step]
  cases hl : b.waiting.lookup r with
  | none => exact .quiet rfl (List.Sublist.refl _) (Nat.le_refl _) Pager.unfetched_nil
  | some ticket =>
    have hs := afterTurn_stepped (b := { b with waiting := b.waiting.filter (·.1 ≠ r) }) (r := r)
      (hm _ (mem_of_lookup hl)) (fun w hw => by simpa using (List.mem_filter.mp hw).2)
      (Pager.receive_counted b.pager b.pageText ticket reply)
    cases hs with
    | quiet hf hw hr hu => exact .quiet hf (hw.trans List.filter_sublist) hr hu
    | fetched r' aim rest es hs hn hf hw hr hlt hu he =>
      exact .fetched r' aim rest es (hs.trans List.filter_sublist) hn hf hw hr hlt hu he

theorem step_stepped {b : Browser} (hm : b.Made) (e : Event) :
    Stepped b (b.step e).1 (b.step e).2 := by
  cases e with
  | seed total items =>
    exact .quiet rfl (List.Sublist.refl _) (Nat.le_refl _) (Pager.unfetched_observation _)
  | «open» => exact request_stepped hm (Pager.open_counted _)
  | goTo target record => exact request_stepped hm (Pager.asked_counted (Pager.goTo_asked _ _ _))
  | older => exact request_stepped hm (Pager.asked_counted (Pager.older_asked _))
  | newer => exact request_stepped hm (Pager.asked_counted (Pager.newer_asked _))
  | follow => exact request_stepped hm (Pager.asked_counted (Pager.follow_asked _ _))
  | remove identity =>
    simp only [step, Pager.remove]
    split_ifs
    · exact .quiet rfl (List.Sublist.refl _) (Nat.le_refl _) (Pager.unfetched_observation _)
    · exact .quiet rfl (List.Sublist.refl _) (Nat.le_refl _) Pager.unfetched_nil
  | close => exact .quiet rfl (List.Sublist.refl _) (Nat.le_refl _) Pager.unfetched_nil
  | move m => exact .quiet rfl (List.Sublist.refl _) (Nat.le_refl _) Pager.unfetched_nil
  | type parameter => exact .quiet rfl (List.Sublist.refl _) (Nat.le_refl _) Pager.unfetched_nil
  | reply r reply => exact step_reply_stepped hm r reply

theorem fetcher?_reply (b : Browser) (r : Nat) (reply : Except ServerError ItemPage) :
    fetcher? (b.step (.reply r reply)).2 = none ∨
      fetcher? (b.step (.reply r reply)).2 = some r := by
  simp only [step]
  cases b.waiting.lookup r with
  | none => exact Or.inl (fetcher?_of_unfetched Pager.unfetched_nil)
  | some ticket =>
    rcases Pager.receive_counted b.pager b.pageText ticket reply with
      ⟨o, hp, -, hu⟩ | ⟨aim, es, hp, -, -, he⟩
    · left
      simp only [afterTurn, hp]
      exact fetcher?_of_unfetched hu
    · right
      simp only [afterTurn, hp, he]
      exact fetcher?_waiting _ _ _ _ _

/-! ## The latest fetcher -/

/-- **The waiting requests are told apart**, and the one with the ticket of the latest fetch, if
there is one, is the request `latest`. -/
structure Tracked (b : Browser) (latest : Option Nat) : Prop where
  nodup : (b.waiting.map Prod.fst).Nodup
  made : b.Made
  numbered : ∀ w ∈ b.waiting, w.2.number ≤ b.pager.fetches
  latest_iff : ∀ w ∈ b.waiting, w.2.number = b.pager.fetches ↔ latest = some w.1

theorem tracked_of_waiting_nil {b : Browser} (h : b.waiting = []) : Tracked b none := by
  constructor <;> simp [h, Made]

theorem step_tracked {b : Browser} {latest : Option Nat} (h : Tracked b latest) (e : Event) :
    Tracked (b.step e).1 ((fetcher? (b.step e).2).or latest) := by
  rcases step_stepped h.made e with
    ⟨hf, hw, hr, hu⟩ | ⟨r, aim, rest, es, hs, hn, hf, hw, hr, hlt, -, he⟩
  · rw [fetcher?_of_unfetched hu, Option.none_or]
    refine ⟨h.nodup.sublist (hw.map _), fun w hm => ?_, fun w hm => ?_, fun w hm => ?_⟩
    · exact lt_of_lt_of_le (h.made w (hw.subset hm)) hr
    · rw [hf]; exact h.numbered w (hw.subset hm)
    · rw [hf]; exact h.latest_iff w (hw.subset hm)
  · rw [he, fetcher?_waiting, Option.some_or]
    refine ⟨?_, fun w hm => ?_, fun w hm => ?_, fun w hm => ?_⟩
    · rw [hw, List.map_append, List.nodup_append]
      refine ⟨h.nodup.sublist (hs.map _), by simp, ?_⟩
      intro k hk k' hk' hkk
      obtain ⟨w, hmw, rfl⟩ := List.mem_map.mp hk
      simp only [List.map_cons, List.map_nil, List.mem_singleton] at hk'
      exact hn w hmw (by rw [hkk, hk'])
    all_goals rw [hw] at hm; rcases List.mem_append.mp hm with hm | hm
    · exact lt_of_lt_of_le (h.made w (hs.subset hm)) hr
    · rw [List.mem_singleton] at hm; subst hm; exact hlt
    · rw [hf]; have := h.numbered w (hs.subset hm); omega
    · rw [List.mem_singleton] at hm; subst hm; exact hf.ge
    · -- the older tickets have smaller numbers
      have h1 := h.numbered w (hs.subset hm)
      have h2 := hn w hm
      rw [hf]
      constructor
      · intro h3; omega
      · intro h3; cases h3; exact absurd rfl h2
    · rw [List.mem_singleton] at hm; subst hm; simp [hf]

theorem run_tracked {b : Browser} {latest : Option Nat} (h : Tracked b latest) (es : List Event) :
    Tracked (b.run es).1 ((lastFetcher (b.run es).2).or latest) := by
  induction es generalizing b latest with
  | nil => exact h
  | cons e es ih =>
    have := ih (step_tracked h e)
    simp only [run, lastFetcher_cons]
    rwa [Option.or_assoc]

/-! ## The configuration, and closing -/

theorem step_config (b : Browser) (e : Event) :
    (b.step e).1.pager.config = b.pager.config := by
  have kept : ∀ t, b.pager.Kept t → (b.request t).1.pager.config = b.pager.config := by
    intro t h
    unfold request
    rw [afterTurn_pager, h.config]
  cases e with
  | «open» => exact kept _ (Pager.open_kept _)
  | goTo target record => exact kept _ (Pager.asked_kept (Pager.goTo_asked _ _ _))
  | older => exact kept _ (Pager.asked_kept (Pager.older_asked _))
  | newer => exact kept _ (Pager.asked_kept (Pager.newer_asked _))
  | follow => exact kept _ (Pager.asked_kept (Pager.follow_asked _ _))
  | remove identity => simp only [step, Pager.remove]; split_ifs <;> rfl
  | reply r reply =>
    simp only [step]
    cases b.waiting.lookup r with
    | none => rfl
    | some ticket => rw [afterTurn_pager, (Pager.receive_kept _ _ _ _).config]
  | _ => rfl

theorem run_config (b : Browser) (es : List Event) :
    (b.run es).1.pager.config = b.pager.config := by
  induction es generalizing b with
  | nil => rfl
  | cons e es ih => exact (ih _).trans (step_config b e)

theorem step_mounted (b : Browser) (e : Event) :
    (b.step e).1.pager.mounted = true ↔ b.pager.mounted = true ∧ e ≠ .close := by
  have kept : ∀ t, b.pager.Kept t → (b.request t).1.pager.mounted = b.pager.mounted := by
    intro t h
    unfold request
    rw [afterTurn_pager, h.mounted]
  cases e with
  | seed total items => simp [step, Pager.seed, Pager.seeded]
  | «open» => simp [step, kept _ (Pager.open_kept _)]
  | goTo target record => simp [step, kept _ (Pager.asked_kept (Pager.goTo_asked _ _ _))]
  | older => simp [step, kept _ (Pager.asked_kept (Pager.older_asked _))]
  | newer => simp [step, kept _ (Pager.asked_kept (Pager.newer_asked _))]
  | follow => simp [step, kept _ (Pager.asked_kept (Pager.follow_asked _ _))]
  | remove identity => simp only [step, Pager.remove]; split_ifs <;> simp
  | close => simp [step, Pager.close]
  | move m => simp [step]
  | type parameter => simp [step]
  | reply r reply =>
    simp only [step]
    cases b.waiting.lookup r with
    | none => simp
    | some ticket => simp [afterTurn_pager, (Pager.receive_kept _ _ _ _).mounted]

/-- **A pager is mounted as long as it was not closed.** -/
theorem run_mounted (b : Browser) (es : List Event) :
    (b.run es).1.pager.mounted = true ↔ b.pager.mounted = true ∧ .close ∉ es := by
  induction es generalizing b with
  | nil => simp [run]
  | cons e es ih =>
    simp only [run, ih, step_mounted, List.mem_cons, not_or, ne_comm (a := e)]
    exact and_assoc

/-! ## The pages there are -/

theorem step_within {b : Browser} (h : b.pager.state.Within) (e : Event) :
    (b.step e).1.pager.state.Within := by
  have request : ∀ t : Turn, t.pager.state.Within → (b.request t).1.pager.state.Within := by
    intro t ht
    rw [Browser.request, afterTurn_pager]
    exact ht
  cases e with
  | seed total items => exact Pager.seeded_within _ _ _
  | «open» => exact request _ (Pager.open_within h)
  | goTo target record => exact request _ (Pager.asked_within h (Pager.goTo_asked _ _ _))
  | older => exact request _ (Pager.asked_within h (Pager.older_asked _))
  | newer => exact request _ (Pager.asked_within h (Pager.newer_asked _))
  | follow => exact request _ (Pager.asked_within h (Pager.follow_asked _ _))
  | remove identity =>
    simp only [step, Pager.remove]
    split_ifs
    · exact PageState.within_settle (h.1.trans h.2)
    · exact h
  | close => exact h
  | move m => exact h
  | type parameter => exact h
  | reply r reply =>
    cases hw : b.waiting.lookup r with
    | none => rw [step_reply_of_none hw]; exact h
    | some ticket =>
      rw [step_reply_of_some hw, afterTurn_pager]
      exact Pager.receive_within h _ _ _

/-- **The page is always one of the pages there are.** -/
theorem run_within {b : Browser} (h : b.pager.state.Within) (es : List Event) :
    (b.run es).1.pager.state.Within := by
  induction es generalizing b with
  | nil => exact h
  | cons e es ih => exact ih (step_within h e)

theorem fresh_within (config : PagerConfig) (observed : Bool) (bar : AddressBar) :
    (fresh config observed bar).pager.state.Within := ⟨Nat.le_refl _, Nat.le_refl _⟩

end Browser

end ListenDeck
