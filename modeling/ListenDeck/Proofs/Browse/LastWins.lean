import ListenDeck.Proofs.Browse.Runs

/-!
# The last request wins

However the replies to the requests of a browser are delayed and reordered, only the request that
issued the latest fetch has any effect.

* `Browser.step_reply_late`: a late reply ends its request and changes nothing.
* `Browser.run_late`: neither does a list of late replies, whatever it contains.
* `Browser.last_issued_wins`: the same for every run of a new browser, and the consequence: the
  replies to a batch of requests lead to the same state and the same effects in every order.
-/

namespace ListenDeck.Browser

/-- The user looks for another page: a request for one, or a move in the address bar. -/
def Event.asks : Event → Bool
  | .goTo .. => true
  | .older => true
  | .newer => true
  | .follow => true
  | .move _ => true
  | _ => false

/-- The replies to requests, in the order in which they are delivered. -/
def replies (answers : Nat → Except ServerError ItemPage) (order : List Nat) : List Event :=
  order.map fun request => .reply request (answers request)

/-- All effects of a log, in order. -/
def effectsOf (log : List Entry) : List PagerEffect := log.flatMap Prod.fst

/-- Two browsers agree on all but the requests that wait. -/
structure Agrees (b b' : Browser) : Prop where
  pager : b.pager = b'.pager
  bar : b.bar = b'.bar
  typed : b.typed = b'.typed

theorem Agrees.trans {a b c : Browser} (h : Agrees a b) (h' : Agrees b c) : Agrees a c :=
  ⟨h.pager.trans h'.pager, h.bar.trans h'.bar, h.typed.trans h'.typed⟩

theorem replies_append (answers : Nat → Except ServerError ItemPage) (before after : List Nat) :
    replies answers (before ++ after) = replies answers before ++ replies answers after :=
  List.map_append

theorem effectsOf_append (log log' : List Entry) :
    effectsOf (log ++ log') = effectsOf log ++ effectsOf log' := List.flatMap_append

/-! ## Late replies -/

section Late
variable {b : Browser} {latest : Option Nat}

theorem isCurrent_iff (h : Tracked b latest) {request : Nat} {ticket : Ticket}
    (hw : b.waiting.lookup request = some ticket) :
    b.pager.isCurrent ticket = true ↔ latest = some request ∧ b.pager.mounted = true := by
  have hl := h.latest_iff _ (mem_of_lookup hw)
  unfold Pager.isCurrent
  rw [Bool.and_eq_true, decide_eq_true_eq, and_comm, eq_comm, hl]

/-- **A late reply does nothing** but end its request. -/
theorem step_reply_late (h : Tracked b latest) {request : Nat} {ticket : Ticket}
    (hw : b.waiting.lookup request = some ticket)
    (hl : ¬ (latest = some request ∧ b.pager.mounted = true))
    (reply : Except ServerError ItemPage) :
    b.step (.reply request reply) =
      ({ b with waiting := b.waiting.filter (·.1 ≠ request) }, [], .ended request .discarded) := by
  rw [← isCurrent_iff h hw, Bool.not_eq_true] at hl
  simp only [step_reply_of_some hw, Pager.receive_late _ _ hl, afterTurn, List.foldl_nil]

theorem lookup_filter_ne (l : List (Nat × Ticket)) {request other : Nat} (h : other ≠ request) :
    (l.filter (·.1 ≠ request)).lookup other = l.lookup other := by
  induction l with
  | nil => rfl
  | cons w l ih =>
    obtain ⟨k, ticket⟩ := w
    by_cases hk : k = request
    · subst hk
      have hne : (other == k) = false := by simpa using h
      rw [List.filter_cons_of_neg (by simp), List.lookup_cons, hne, ih]
    · rw [List.filter_cons_of_pos (by simpa using hk), List.lookup_cons, List.lookup_cons, ih]

theorem step_reply_of_ne (h : Tracked b latest) {request : Nat} (hl : latest ≠ some request)
    (reply : Except ServerError ItemPage) :
    Agrees (b.step (.reply request reply)).1 b ∧ (b.step (.reply request reply)).2.1 = [] ∧
      Tracked (b.step (.reply request reply)).1 latest ∧
      ∀ other, other ≠ request →
        (b.step (.reply request reply)).1.waiting.lookup other = b.waiting.lookup other := by
  have ht := step_tracked h (.reply request reply)
  cases hw : b.waiting.lookup request with
  | none =>
    have hs := step_reply_of_none hw reply
    rw [hs] at ht ⊢
    exact ⟨⟨rfl, rfl, rfl⟩, rfl, h, fun _ _ => rfl⟩
  | some ticket =>
    have hs := step_reply_late h hw (fun hc => hl hc.1) reply
    rw [hs] at ht ⊢
    exact ⟨⟨rfl, rfl, rfl⟩, rfl, ht, fun other ho => lookup_filter_ne _ ho⟩

/-- **Late replies do nothing**, whatever they contain. -/
theorem run_late (answers : Nat → Except ServerError ItemPage) (order : List Nat)
    (h : Tracked b latest) (hl : ∀ request ∈ order, latest ≠ some request) :
    Agrees (b.run (replies answers order)).1 b ∧
      effectsOf (b.run (replies answers order)).2 = [] ∧
      Tracked (b.run (replies answers order)).1 latest ∧
      ∀ other, other ∉ order →
        (b.run (replies answers order)).1.waiting.lookup other = b.waiting.lookup other := by
  induction order generalizing b with
  | nil => exact ⟨⟨rfl, rfl, rfl⟩, rfl, h, fun _ _ => rfl⟩
  | cons request order ih =>
    obtain ⟨ha, he, ht, hk⟩ := step_reply_of_ne h (hl request (by simp)) (answers request)
    obtain ⟨ha', he', ht', hk'⟩ := ih ht fun r hr => hl r (List.mem_cons_of_mem _ hr)
    simp only [replies, List.map_cons, run] at ha' he' ht' hk' ⊢
    refine ⟨ha'.trans ha, ?_, ht', fun other ho => ?_⟩
    · simp only [effectsOf, List.flatMap_cons, he, List.nil_append] at he' ⊢
      exact he'
    · rw [List.mem_cons, not_or] at ho
      rw [hk' other ho.2, hk other ho.1]

end Late

/-! ## The reply that counts -/

theorem foldl_applyEffect_agrees (effects : List PagerEffect) {b b' : Browser} (h : Agrees b b') :
    Agrees (effects.foldl applyEffect b) (effects.foldl applyEffect b') := by
  induction effects generalizing b b' with
  | nil => exact h
  | cons e es ih =>
    refine ih ?_
    cases e with
    | push page => exact ⟨h.pager, by simp only [applyEffect, h.bar], rfl⟩
    | _ => exact h

theorem step_reply_agrees {b b' : Browser} (h : Agrees b b') {request : Nat}
    (hw : b.waiting.lookup request = b'.waiting.lookup request)
    (reply : Except ServerError ItemPage) :
    Agrees (b.step (.reply request reply)).1 (b'.step (.reply request reply)).1 ∧
      (b.step (.reply request reply)).2 = (b'.step (.reply request reply)).2 := by
  have htext : b.pageText = b'.pageText := by unfold pageText; rw [h.bar, h.typed]
  simp only [step, ← hw, ← htext, ← h.pager]
  cases b.waiting.lookup request with
  | none => exact ⟨h, rfl⟩
  | some ticket =>
    simp only [afterTurn]
    generalize b.pager.receive b.pageText ticket reply = t
    have hf : Agrees
        (t.effects.foldl applyEffect
          { b with waiting := b.waiting.filter (·.1 ≠ request), pager := t.pager })
        (t.effects.foldl applyEffect
          { b' with waiting := b'.waiting.filter (·.1 ≠ request), pager := t.pager }) :=
      foldl_applyEffect_agrees t.effects ⟨rfl, h.bar, h.typed⟩
    cases t.progress with
    | ended o => exact ⟨hf, rfl⟩
    | waiting ticket' => exact ⟨⟨hf.pager, hf.bar, hf.typed⟩, rfl⟩

/-- Replies in any order, that of the latest fetcher once among them, have the effect of that one
reply. -/
theorem run_replies_agrees {b : Browser} {last : Nat} (h : Tracked b (some last))
    (answers : Nat → Except ServerError ItemPage) {order : List Nat} (hn : order.Nodup)
    (hm : last ∈ order) :
    Agrees (b.run (replies answers order)).1 (b.run (replies answers [last])).1 ∧
      effectsOf (b.run (replies answers order)).2 =
        effectsOf (b.run (replies answers [last])).2 := by
  obtain ⟨before, after, rfl⟩ := List.append_of_mem hm
  rw [List.nodup_append, List.nodup_cons] at hn
  obtain ⟨-, ⟨hafter, -⟩, hdisj⟩ := hn
  have hbefore : ∀ r ∈ before, some last ≠ some r := fun r hr he =>
    hdisj r hr last (by simp) (Option.some.inj he).symm
  obtain ⟨ha, he, ht, hk⟩ := run_late answers before h hbefore
  have hlast : last ∉ before := fun hl => hbefore last hl rfl
  obtain ⟨hs, hse⟩ := step_reply_agrees ha (hk last hlast) (answers last)
  -- the latest fetcher stays the same, even if its reply makes it fetch again
  have ht' := step_tracked ht (.reply last (answers last))
  have hsame : ∀ o : Option Nat, o = none ∨ o = some last → o.or (some last) = some last := by
    rintro o (rfl | rfl) <;> rfl
  rw [hsame _ (fetcher?_reply _ last (answers last))] at ht'
  obtain ⟨ha', he', -, -⟩ := run_late answers after ht'
    fun r hr hc => hafter (Option.some.inj hc ▸ hr)
  rw [replies_append, run_append, effectsOf_append, he, List.nil_append]
  refine ⟨ha'.trans hs, ?_⟩
  simp only [replies, List.map_cons, List.map_nil, run, effectsOf, List.flatMap_cons,
    List.flatMap_nil, List.append_nil] at he' hse ⊢
  rw [he', List.append_nil]
  exact congrArg Prod.fst hse

/-! ## A batch of requests -/

theorem step_asks {b : Browser} {e : Event} (h : e.asks = true) :
    b.requests ≤ (b.step e).1.requests ∧ ∀ r, fetcher? (b.step e).2 = some r →
      r = b.requests ∧ (b.step e).1.requests = b.requests + 1 := by
  have asked : ∀ record t, b.pager.Asked record t → b.requests ≤ (b.request t).1.requests ∧
      ∀ r, fetcher? (b.request t).2 = some r →
        r = b.requests ∧ (b.request t).1.requests = b.requests + 1 := by
    intro record t ht
    unfold request
    rw [afterTurn_requests]
    refine ⟨Nat.le_succ _, fun r hr => ⟨?_, rfl⟩⟩
    cases ht with
    | ended o _ => simp [afterTurn, fetcher?] at hr
    | fetched n _ _ =>
      rw [afterTurn, Pager.fetch_progress, Pager.fetch_effects, fetcher?_waiting] at hr
      exact (Option.some.inj hr).symm
  cases e with
  | goTo target record => exact asked _ _ (Pager.goTo_asked _ _ _)
  | older => exact asked _ _ (Pager.older_asked _)
  | newer => exact asked _ _ (Pager.newer_asked _)
  | follow => exact asked _ _ (Pager.follow_asked _ _)
  | move m => exact ⟨Nat.le_refl _, fun r hr => by simp [step, fetcher?] at hr⟩
  | _ => simp [Event.asks] at h

theorem fetchers_nodup {b : Browser} {batch : List Event} (h : ∀ e ∈ batch, e.asks = true) :
    (fetchers (b.run batch).2).Nodup ∧ ∀ r ∈ fetchers (b.run batch).2, b.requests ≤ r := by
  induction batch generalizing b with
  | nil => simp [run, fetchers]
  | cons e batch ih =>
    obtain ⟨hle, hr⟩ := step_asks (b := b) (h e (by simp))
    obtain ⟨hn, hge⟩ := ih (b := (b.step e).1) fun e' he' => h e' (List.mem_cons_of_mem _ he')
    simp only [run, fetchers, List.filterMap_cons] at hn hge ⊢
    cases hf : fetcher? (b.step e).2 with
    | none => exact ⟨hn, fun r hm => hle.trans (hge r hm)⟩
    | some r =>
      obtain ⟨rfl, hreq⟩ := hr r hf
      simp only [List.nodup_cons, List.mem_cons, forall_eq_or_imp]
      refine ⟨⟨fun hm => ?_, hn⟩, Nat.le_refl _, fun r hm => hle.trans (hge r hm)⟩
      have := hge _ hm
      omega

/-- What is left of a run: the pager, the address bar, and all effects in order. -/
def outcome (b : Browser) (es : List Event) :
    Pager × AddressBar × Option String × List PagerEffect :=
  ((b.run es).1.pager, (b.run es).1.bar, (b.run es).1.typed, effectsOf (b.run es).2)

/-- **The last request wins.** In every run of a new browser, the reply to a request has an effect
only if the request issued the latest fetch and the pager was not closed; any other reply ends its
request as discarded and changes nothing else. Hence the replies to a batch of requests have the
same outcome in every order: that of the one reply to the last of them that issued a fetch. -/
theorem last_issued_wins {config : PagerConfig} {observed : Bool} {bar : AddressBar}
    {events : List Event} {b : Browser} {log : List Entry}
    (h : (fresh config observed bar).run events = (b, log)) :
    (∀ request ticket reply, b.waiting.lookup request = some ticket →
      (lastFetcher log = some request ∧ .close ∉ events →
        (b.step (.reply request reply)).2.2 ≠ .ended request .discarded) ∧
      (¬ (lastFetcher log = some request ∧ .close ∉ events) →
        b.step (.reply request reply) = ({ b with waiting := b.waiting.filter (·.1 ≠ request) }, [],
          .ended request .discarded))) ∧
    ∀ batch b' log', (∀ e ∈ batch, e.asks = true) → b.run batch = (b', log') →
      ∀ (order : List Nat) (answers : Nat → Except ServerError ItemPage),
        order.Perm (fetchers log') →
          b'.outcome (replies answers order) =
            b'.outcome (replies answers (lastFetcher log').toList) := by
  have ht := run_tracked (b := fresh config observed bar) (tracked_of_waiting_nil rfl) events
  have hm := run_mounted (fresh config observed bar) events
  rw [h] at ht hm
  simp only [Option.or_none] at ht
  have hmounted : b.pager.mounted = true ↔ .close ∉ events := by
    rw [hm]; exact and_iff_right rfl
  refine ⟨fun request ticket reply hw => ⟨fun hc => ?_, fun hc => ?_⟩, ?_⟩
  · rw [← hmounted, ← isCurrent_iff ht hw] at hc
    have hd := Pager.receive_not_discarded b.pager b.pageText hc reply
    simp only [step, hw, afterTurn]
    cases hp : (b.pager.receive b.pageText ticket reply).progress with
    | ended o =>
      intro he
      simp only [Answer.ended.injEq, true_and] at he
      exact hd (by rw [hp, he])
    | waiting ticket' => simp
  · rw [← hmounted] at hc
    exact step_reply_late ht hw hc reply
  · intro batch b' log' hb hrun order answers hp
    have ht' := run_tracked ht batch
    obtain ⟨hn, -⟩ := fetchers_nodup (b := b) hb
    rw [hrun] at ht' hn
    cases hl : lastFetcher log' with
    | none =>
      have hnil : fetchers log' = [] := List.getLast?_eq_none_iff.mp hl
      rw [hnil, List.perm_nil] at hp
      rw [hp]; rfl
    | some last =>
      rw [hl, Option.some_or] at ht'
      have hmem : last ∈ order := hp.mem_iff.mpr (List.mem_of_getLast? hl)
      obtain ⟨ha, he⟩ := run_replies_agrees ht' answers (hp.nodup_iff.mpr hn) hmem
      simp only [outcome, Option.toList_some, ha.pager, ha.bar, ha.typed, he]

/-- Two pages of thirty are asked for one after the other: a reply to the first request is dropped,
and it makes no difference that it comes before the reply to the second. -/
theorem last_issued_wins_of_two_requests :
    let b := ((fresh ⟨"rob", "pinned recordings", 2⟩ false (.start none)).run [.seed 60 []]).1
    let b' := (b.run [.goTo 2 true, .goTo 3 true]).1
    let answers := fun request => if request = 0 then .error (.network "") else .ok {}
    b'.step (.reply 0 (.ok {})) =
        ({ b' with waiting := b'.waiting.filter (·.1 ≠ 0) }, [], .ended 0 .discarded) ∧
      b'.outcome (replies answers [0, 1]) = b'.outcome (replies answers [1]) := by
  refine ⟨?_, ?_⟩
  · have h := @last_issued_wins ⟨"rob", "pinned recordings", 2⟩ false (.start none)
      [.seed 60 [], .goTo 2 true, .goTo 3 true] _ _ rfl
    exact (h.1 0 _ (.ok {}) rfl).2 fun hc => absurd hc.1 (by decide)
  · have h := @last_issued_wins ⟨"rob", "pinned recordings", 2⟩ false (.start none)
      [.seed 60 []] _ _ rfl
    exact h.2 [.goTo 2 true, .goTo 3 true] _ _ (by simp [Event.asks]) rfl [0, 1] _ (by decide)

end ListenDeck.Browser
