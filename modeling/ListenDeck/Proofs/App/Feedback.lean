import ListenDeck.Proofs.App.Replies
import ListenDeck.Proofs.App.Sheets

/-!
# Feedback of one card

The requests that give a card's feedback, and the score the card shows. A card is known by the
number of its page and its own number there. Each press sends a request of its own, and each
confirmed one sets the score when its reply arrives, whatever was sent since.

* `Pending.feedback?`: the card and the score that a call is about, if it gives feedback.
* `Live.confirmations`: the confirmations of a run, in the order they arrive.
* `Live.LatestWins`: the card shows what the latest of the confirmed requests asked for.
* `Live.last_arrival_counts`: the card shows what the confirmation that arrived last says.
* `Live.latest_wins_iff`: so the latest request wins exactly if that confirmation says the same, as
  it does where replies come in the order of their requests.
* `Live.latest_loses`: two requests whose replies cross.
-/

namespace ListenDeck

/-! ## Confirmations -/

/-- The card on its page and the score that an errand is about, if it gives feedback. -/
def Errand.feedback? : Errand → Option (Nat × Score)
  | .change card _ (.submitFeedback _ _ score) _ => some (card, score)
  | _ => none

theorem Errand.of_feedback? {e : Errand} {f : Nat × Score} (h : e.feedback? = some f) :
    ∃ card item token msid score grace,
      e = .change card item (.submitFeedback token msid score) grace ∧ f = (card, score) := by
  unfold Errand.feedback? at h
  split at h
  · exact ⟨_, _, _, _, _, _, rfl, (Option.some.inj h).symm⟩
  · cases h

/-- **Feedback for a card**: the number of its page, its own number there, and the score. -/
structure Feedback where
  page : Nat
  card : Nat
  score : Score
  deriving DecidableEq, Repr

/-- The feedback that a call gives. -/
def Pending.feedback? (c : Pending) : Option Feedback :=
  match c.owner with
  | .page page => c.errand.feedback?.map fun f => { page, card := f.1, score := f.2 }
  | .dialog => none

/-- **A confirmed request** for feedback. -/
structure Confirmation extends Feedback where
  /-- The number of the request. -/
  request : Nat
  deriving DecidableEq, Repr

/-- What the reply to a request confirms. -/
def Sent.confirmation? (s : Sent) (reply : Reply) : Option Confirmation :=
  if reply.confirms then s.call.feedback?.map fun f => { f with request := s.number } else none

/-- The feedback is for a card. -/
def Feedback.concerns (page card : Nat) (f : Feedback) : Bool := f.page = page ∧ f.card = card

namespace Live

/-- What an event confirms. -/
def confirmation? (l : Live) : Event → Option Confirmation
  | .reply number reply => (l.waiting.find? (·.number = number)).bind (·.confirmation? reply)
  | _ => none

/-- **The confirmations of a run**, in the order they arrive. -/
def confirmations : Live → List Event → List Confirmation
  | _, [] => []
  | l, e :: es => (l.confirmation? e).toList ++ confirmations (l.step e) es

/-- The confirmations of a run that are about a card. -/
def confirmationsOf (l : Live) (page card : Nat) (es : List Event) : List Confirmation :=
  (l.confirmations es).filter (·.concerns page card)

/-- The requests for a card's feedback that are not answered yet. -/
def inFlight (l : Live) (page card : Nat) : List Sent :=
  l.waiting.filter (·.call.feedback?.any (·.concerns page card))

/-- The score that a card of a page shows, while it is there. -/
def shown? (l : Live) (page card : Nat) : Option Score :=
  if l.app.opened = page then l.app.page.sheet.scores.lookup card else none

/-! ## Scores follow confirmations -/

/-- The scores that confirmations give to the cards of a page. -/
def verdictsOf (page : Nat) (cs : List Confirmation) : List (Nat × Score) :=
  (cs.filter (·.page = page)).map fun c => (c.card, c.score)

theorem verdictsOf_append (page : Nat) (cs cs' : List Confirmation) :
    verdictsOf page (cs ++ cs') = verdictsOf page cs ++ verdictsOf page cs' := by
  simp [verdictsOf]

theorem heard_settle (item : Item) (token msid : String) (score : Score)
    (reply : Except ServerError Nat) :
    (ListenDeck.settle item (.submitFeedback token msid score) reply).heard =
      if confirmed reply = .ok () then [(msid, score)] else [] := by
  unfold ListenDeck.settle
  cases hc : confirmed reply with
  | ok u => rfl
  | error e => rw [if_neg (by rintro ⟨⟩)]; rfl

theorem heard_settle_of_ne {m : Mutation} (item : Item) (reply : Except ServerError Nat)
    (h : ∀ token msid score, m ≠ .submitFeedback token msid score) :
    (ListenDeck.settle item m reply).heard = [] := by
  unfold ListenDeck.settle
  split
  · rfl
  · cases m with
    | submitFeedback token msid score => exact absurd rfl (h token msid score)
    | _ => rfl

theorem verdicts_of_none (a : App) {c : Pending} (hc : c.errand.feedback? = none)
    (result : Except ServerError c.errand.call.Result) : a.verdicts c result = [] := by
  obtain ⟨owner, base, errand⟩ := c
  unfold App.verdicts
  split_ifs
  · cases errand with
    | change card item m grace =>
      refine congrArg (List.map _) (heard_settle_of_ne item result fun token msid score he => ?_)
      subst he
      cases hc
    | _ => rfl
  · rfl

theorem verdicts_settle (a : App) (s : Sent) (reply : Reply) :
    a.verdicts s.call (s.call.errand.call.settle s.request reply) =
      verdictsOf a.opened ((s.confirmation? reply).toList) := by
  obtain ⟨number, ⟨owner, base, errand⟩, request⟩ := s
  cases hf : errand.feedback? with
  | none =>
    rw [verdicts_of_none a hf]
    cases owner <;> simp [Sent.confirmation?, Pending.feedback?, hf, verdictsOf]
  | some f =>
    obtain ⟨card, item, token, msid, score, grace, rfl, rfl⟩ := Errand.of_feedback? hf
    have hheard := heard_settle item token msid score
      ((Call.change (.submitFeedback token msid score)).settle request reply)
    have hc := confirmed_settle (.submitFeedback token msid score) request reply
    cases owner with
    | dialog => simp [App.verdicts, Sent.confirmation?, Pending.feedback?, verdictsOf]
    | page page =>
      have hverdicts : Pending.verdicts ⟨.page page, base,
          .change card item (.submitFeedback token msid score) grace⟩
          ((Call.change (.submitFeedback token msid score)).settle request reply) =
            if reply.confirms then [(card, score)] else [] := by
        refine (congrArg (List.map fun h => (card, h.2)) hheard).trans ?_
        simp only [hc]
        split_ifs <;> rfl
      unfold App.verdicts
      by_cases hp : page = a.opened
      · rw [if_pos (congrArg Owner.page hp)]
        refine hverdicts.trans ?_
        by_cases hr : reply.confirms = true <;>
          simp [Sent.confirmation?, Pending.feedback?, Errand.feedback?, verdictsOf, hr, hp]
      · rw [if_neg (fun he => hp (Owner.page.inj he))]
        by_cases hr : reply.confirms = true <;>
          simp [Sent.confirmation?, Pending.feedback?, Errand.feedback?, verdictsOf, hr, hp]

theorem dispatch_follows (fuel : Nat) {l : Live} (calls : List Pending)
    (h : l.app.page.sheet.Numbered) : l.app.Follows (dispatch fuel l calls).app [] := by
  induction fuel generalizing l calls with
  | zero => exact .refl h
  | succ fuel ih =>
    cases calls with
    | nil => exact .refl h
    | cons c rest =>
      simp only [dispatch]
      split
      · next request hsend =>
        have hf := @ih { l with
          waiting := l.waiting ++ [{ number := l.requests, call := c, request }]
          requests := l.requests + 1 } rest h
        exact hf
      · next result hsend =>
        have hf := l.app.receive_follows h c result
        rw [l.app.verdicts_of_unsent hsend] at hf
        have hrest := @ih { l with app := (l.app.receive c result).1 }
          (rest ++ (l.app.receive c result).2) hf.numbered
        exact hf.trans hrest

/-- **An event changes scores** as it confirms feedback, and not otherwise. -/
theorem step_follows {l : Live} (h : l.app.page.sheet.Numbered) (e : Event) :
    l.app.Follows (l.step e).app (verdictsOf l.app.opened (l.confirmation? e).toList) := by
  cases e with
  | act m =>
    have hf := l.app.update_follows h m
    have hd := @dispatch_follows maxCalls { l with app := (l.app.update m).1 } (l.app.update m).2
      hf.numbered
    exact hf.trans hd
  | reply number reply =>
    simp only [step, settle, confirmation?]
    split
    · next hs =>
      rw [hs]
      exact .refl h
    · next s hs =>
      rw [hs, Option.bind_some, ← verdicts_settle]
      have hf := l.app.receive_follows h s.call (s.call.errand.call.settle s.request reply)
      have hd := @dispatch_follows maxCalls
        { l with
          waiting := l.waiting.filter (·.number ≠ number)
          app := (l.app.receive s.call (s.call.errand.call.settle s.request reply)).1 }
        (l.app.receive s.call (s.call.errand.call.settle s.request reply)).2 hf.numbered
      have hall := hf.trans hd
      rw [List.append_nil] at hall
      exact hall
  | pass ms => exact l.app.pass_follows h ms

/-- **A run changes scores** as it confirms feedback, one confirmation after the other. -/
theorem run_follows {l : Live} (h : l.app.page.sheet.Numbered) (es : List Event) :
    l.app.Follows (l.run es).app (verdictsOf l.app.opened (l.confirmations es)) := by
  induction es generalizing l with
  | nil => exact .refl h
  | cons e es ih =>
    have hstep := step_follows h e
    have hrest := ih hstep.numbered
    rw [run_cons, confirmations, verdictsOf_append]
    rcases hstep with ⟨hlt, -⟩ | ⟨heq, hf⟩
    · exact hrest.of_opened hlt _
    · rw [heq] at hrest
      exact App.Follows.trans (.inr ⟨heq, hf⟩) hrest

theorem lookup_mem {l : List (Nat × Score)} {card : Nat} {score : Score}
    (h : l.lookup card = some score) : (card, score) ∈ l := by
  obtain ⟨before, after, rfl, -⟩ := List.lookup_eq_some_iff.mp h
  exact List.mem_append_right _ List.mem_cons_self

/-- **The confirmation that arrived last** says what the card shows. -/
theorem last_arrival_counts {l : Live} (hl : l.app.page.sheet.Numbered) {page card : Nat}
    {s₀ s : Score} {es : List Event} (h₀ : l.shown? page card = some s₀)
    (h : (l.run es).shown? page card = some s) :
    s = ((l.confirmationsOf page card es).getLast?.map (·.score)).getD s₀ := by
  unfold shown? at h₀ h
  split_ifs at h₀ h with hopened hopened'
  have hscore : s = scoreAfter card s₀ (verdictsOf page (l.confirmations es)) := by
    rcases run_follows hl es with ⟨hlt, -⟩ | ⟨-, hf⟩
    · omega
    · rw [hopened] at hf
      exact hf.score hl (lookup_mem h₀) (lookup_mem h)
  have hfilter : (verdictsOf page (l.confirmations es)).filter (·.1 = card) =
      (l.confirmationsOf page card es).map fun c => (c.card, c.score) := by
    simp only [verdictsOf, confirmationsOf, List.filter_map, List.filter_filter]
    congr 2
    funext c
    simp [Feedback.concerns, Bool.and_comm]
  rw [hscore, scoreAfter_eq, hfilter, List.getLast?_map, Option.map_map]
  rfl

/-! ## The order of confirmations -/

section Order
variable {l : Live} {page card : Nat}

theorem of_confirmation? {e : Event} {c : Confirmation} (h : l.confirmation? e = some c) :
    (∃ reply, e = .reply c.request reply) ∧
      ∃ q ∈ l.waiting, q.number = c.request ∧ q.call.feedback? = some c.toFeedback := by
  cases e with
  | reply number reply =>
    obtain ⟨q, hfind, hc⟩ := Option.bind_eq_some_iff.mp h
    unfold Sent.confirmation? at hc
    split_ifs at hc
    obtain ⟨f, hf, rfl⟩ := Option.map_eq_some_iff.mp hc
    have hnumber : q.number = number := by simpa using List.find?_some hfind
    exact ⟨⟨reply, by rw [hnumber]⟩, q, List.mem_of_find?_eq_some hfind, rfl, hf⟩
  | act m => cases h
  | pass ms => cases h

theorem mem_inFlight {q : Sent} : q ∈ l.inFlight page card ↔
    q ∈ l.waiting ∧ ∃ f, q.call.feedback? = some f ∧ f.concerns page card = true := by
  rw [inFlight, List.mem_filter, Option.any_eq_true]

theorem confirmationsOf_cons (e : Event) (es : List Event) :
    l.confirmationsOf page card (e :: es) =
      (l.confirmation? e).toList.filter (·.concerns page card) ++
        (l.step e).confirmationsOf page card es :=
  List.filter_append ..

/-- What is confirmed later is in flight now, or is sent later. -/
theorem confirmationsOf_requests (hl : l.Numbered) (es : List Event) :
    ∀ c ∈ l.confirmationsOf page card es,
      (∃ q ∈ l.inFlight page card, q.number = c.request) ∨ l.requests ≤ c.request := by
  induction es generalizing l with
  | nil => exact fun c hc => absurd hc List.not_mem_nil
  | cons e es ih =>
    intro c hc
    rw [confirmationsOf_cons, List.mem_append] at hc
    rcases hc with hc | hc
    · obtain ⟨hc, hconcerns⟩ := List.mem_filter.mp hc
      obtain ⟨-, q, hq, hnumber, hf⟩ := of_confirmation? (Option.mem_toList.mp hc)
      exact .inl ⟨q, mem_inFlight.mpr ⟨hq, _, hf, hconcerns⟩, hnumber⟩
    · rcases ih (step_numbered hl e) c hc with ⟨q, hq, hnumber⟩ | hle
      · obtain ⟨hq, hf⟩ := mem_inFlight.mp hq
        rcases step_waiting l e q hq with ⟨hold, -⟩ | hnew
        · exact .inl ⟨q, mem_inFlight.mpr ⟨hold, hf⟩, hnumber⟩
        · exact .inr (hnumber ▸ hnew)
      · exact .inr (Nat.le_trans (requests_le_step hl e) hle)

/-- **A request is confirmed once**, and those that are confirmed later were sent later if it was in
flight alone. -/
theorem later_confirmation (hl : l.Numbered) {e : Event} {es : List Event} {c c' : Confirmation}
    (hc : l.confirmation? e = some c) (hconcerns : c.concerns page card = true)
    (hc' : c' ∈ (l.step e).confirmationsOf page card es) :
    c.request ≠ c'.request ∧
      ((l.inFlight page card).length ≤ 1 → c.request < c'.request) := by
  obtain ⟨⟨reply, he⟩, q, hq, hnumber, hf⟩ := of_confirmation? hc
  have hlt : c.request < l.requests := hnumber ▸ hl q hq
  rcases confirmationsOf_requests (step_numbered hl e) es c' hc' with ⟨q', hq', hnumber'⟩ | hle
  · obtain ⟨hq', hf'⟩ := mem_inFlight.mp hq'
    rcases step_waiting l e q' hq' with ⟨hold, hne⟩ | hnew
    · have hother := hne _ _ he
      refine ⟨fun heq => hother (hnumber'.trans heq.symm), fun hone => ?_⟩
      -- two requests in flight
      have hmem : q ∈ l.inFlight page card := mem_inFlight.mpr ⟨hq, _, hf, hconcerns⟩
      have hmem' : q' ∈ l.inFlight page card := mem_inFlight.mpr ⟨hold, hf'⟩
      obtain ⟨only, honly⟩ :=
        List.length_eq_one_iff.mp (Nat.le_antisymm hone (List.length_pos_of_mem hmem))
      rw [honly, List.mem_singleton] at hmem hmem'
      rw [hmem', ← hmem] at hother
      exact absurd hnumber hother
    · omega
  · have := requests_le_step hl e
    omega

theorem confirmationsOf_pairwise {R : Confirmation → Confirmation → Prop} {es : List Event}
    (h : ∀ before e after, es = before ++ e :: after → ∀ c,
      (l.run before).confirmation? e = some c → c.concerns page card = true →
        ∀ c' ∈ ((l.run before).step e).confirmationsOf page card after, R c c') :
    (l.confirmationsOf page card es).Pairwise R := by
  induction es generalizing l with
  | nil => exact List.Pairwise.nil
  | cons e es ih =>
    have hrest : ((l.step e).confirmationsOf page card es).Pairwise R := by
      refine ih fun before e' after hes => ?_
      exact h (e :: before) e' after (congrArg (e :: ·) hes)
    rw [confirmationsOf_cons]
    cases hc : l.confirmation? e with
    | none => exact hrest
    | some c =>
      by_cases hconcerns : c.concerns page card = true
      · simp only [Option.toList_some, List.filter_cons, List.filter_nil, hconcerns, if_true]
        exact List.Pairwise.cons (h [] e es rfl c hc hconcerns) hrest
      · simp only [Option.toList_some, List.filter_cons, List.filter_nil, hconcerns]
        exact hrest

/-- **Each confirmation is that of a request of its own.** -/
theorem confirmationsOf_nodup (hl : l.Numbered) (page card : Nat) (es : List Event) :
    ((l.confirmationsOf page card es).map (·.request)).Nodup := by
  refine List.pairwise_map.mpr (confirmationsOf_pairwise fun before e after _ c hc hconcerns => ?_)
  exact fun c' hc' => (later_confirmation (run_numbered hl before) hc hconcerns hc').1

/-- No two requests for the card's feedback are ever in flight together. -/
def OneAtATime (l : Live) (page card : Nat) (es : List Event) : Prop :=
  ∀ before after, es = before ++ after → ((l.run before).inFlight page card).length ≤ 1

/-- **One request at a time** is confirmed in the order of sending. -/
theorem confirmationsOf_sorted (hl : l.Numbered) {es : List Event}
    (hone : l.OneAtATime page card es) :
    (l.confirmationsOf page card es).Pairwise fun c c' => c.request < c'.request := by
  refine confirmationsOf_pairwise fun before e after hes c hc hconcerns c' hc' => ?_
  exact (later_confirmation (run_numbered hl before) hc hconcerns hc').2 (hone _ _ hes)

end Order

/-! ## The latest request -/

/-- **The latest request wins**: a score is the one that the latest of the confirmed requests asked
for, and the first one if none was confirmed. -/
structure LatestWins (s₀ : Score) (cs : List Confirmation) (s : Score) : Prop where
  none : cs = [] → s = s₀
  latest : ∀ c ∈ cs, (∀ c' ∈ cs, c'.request ≤ c.request) → s = c.score

section Latest
variable {s₀ s : Score} {cs : List Confirmation}
  (h : s = (cs.getLast?.map (·.score)).getD s₀)
include h

theorem latestWins_iff : LatestWins s₀ cs s ↔ ∀ last, cs.getLast? = some last →
    ∀ c ∈ cs, (∀ c' ∈ cs, c'.request ≤ c.request) → last.score = c.score := by
  constructor
  · intro hw last hlast c hc hmax
    rw [hlast] at h
    rw [← hw.latest c hc hmax, h]
    rfl
  · intro hw
    cases hlast : cs.getLast? with
    | none =>
      have hnil : cs = [] := List.getLast?_eq_none_iff.mp hlast
      subst hnil
      exact ⟨fun _ => h, fun c hc => absurd hc List.not_mem_nil⟩
    | some last =>
      rw [hlast] at h
      refine ⟨fun hnil => ?_, fun c hc hmax => h.trans (hw last hlast c hc hmax)⟩
      rw [hnil] at hlast
      cases hlast

/-- Where confirmations arrive in the order of their requests the latest one wins. -/
theorem latestWins_of_sorted (hsorted : cs.Pairwise fun c c' => c.request < c'.request) :
    LatestWins s₀ cs s := by
  refine (latestWins_iff h).mpr fun last hlast c hc hmax => ?_
  obtain ⟨before, rfl⟩ := List.getLast?_eq_some_iff.mp hlast
  rcases List.mem_append.mp hc with hbefore | hlast
  · have hlt := (List.pairwise_append.mp hsorted).2.2 c hbefore last (List.mem_singleton_self _)
    have hle := hmax last (List.mem_append_right _ (List.mem_singleton_self _))
    omega
  · rw [List.mem_singleton.mp hlast]

end Latest

theorem start_sheet_numbered (home : String) (store : Store) :
    (start home store).app.page.sheet.Numbered := by
  have hvisit : ∀ a : App, (a.visit .listens).1.settleTime.page.sheet.Numbered := fun a =>
    (App.settleTime_follows _ (a.visit_follows .listens).numbered).numbered
  exact (dispatch_follows maxCalls _ (hvisit _)).numbered

/-- **The last confirmation counts, not the latest request.** From any moment of any run at which a
card shows a score, whatever happens until a later moment at which it is still there: requests for
its feedback that are sent in any order relative to replies, answered in any order, confirmed,
refused or lost. Each confirmation is that of another request, and the card shows what the one that
arrived last says, or the first score if none arrived. So it shows what the latest of the confirmed
requests asked for exactly if the confirmation that arrived last says the same. It does if
confirmations arrive in the order of their requests, hence if no two requests for the card's
feedback are ever in flight together. -/
theorem latest_wins_iff {home : String} {store : Store} {es₀ : List Event} {page card : Nat}
    {s₀ : Score} (h₀ : ((start home store).run es₀).shown? page card = some s₀) {es : List Event}
    {s : Score} (h : (((start home store).run es₀).run es).shown? page card = some s) :
    let l := (start home store).run es₀
    let cs := l.confirmationsOf page card es
    (cs.map (·.request)).Nodup ∧
    s = (cs.getLast?.map (·.score)).getD s₀ ∧
    (LatestWins s₀ cs s ↔ ∀ last, cs.getLast? = some last →
      ∀ c ∈ cs, (∀ c' ∈ cs, c'.request ≤ c.request) → last.score = c.score) ∧
    ((cs.Pairwise fun c c' => c.request < c'.request) → LatestWins s₀ cs s) ∧
    (l.OneAtATime page card es → LatestWins s₀ cs s) := by
  intro l cs
  have hnumbered : l.Numbered :=
    run_numbered (start_sends followUp_true home store fun _ _ => trivial).1 es₀
  have hsheet : l.app.page.sheet.Numbered :=
    (run_follows (start_sheet_numbered home store) es₀).numbered
  have hlast := last_arrival_counts hsheet h₀ h
  exact ⟨confirmationsOf_nodup hnumbered page card es, hlast, latestWins_iff hlast,
    latestWins_of_sorted hlast,
    fun hone => latestWins_of_sorted hlast (confirmationsOf_sorted hnumbered hone)⟩

/-- Somebody signs in and looks at their listens: there is one, and no feedback for it yet. -/
def oneListen : List Event :=
  let listens := "\x7b\"payload\":\x7b\"listens\":[\x7b\"track_metadata\":" ++
    "\x7b\"additional_info\":\x7b\"recording_msid\":\"m\"\x7d\x7d\x7d]\x7d\x7d"
  let scores := "\x7b\"feedback\":[]\x7d"
  [.act (.look .settings), .act (.settings (.type .apiUrl "http://h")),
    .act (.settings (.type .userName "rob")), .act (.settings (.type .token "tok")),
    .act (.settings .save), .act (.look .listens),
    .reply 0 (.answered 200 (Text.utf8Bytes listens.toList)),
    .reply 1 (.answered 200 (Text.utf8Bytes scores.toList))]

/-- The listen is loved, and the server confirms it; then it is hated, and the server refuses that:
the card shows what the latest of the confirmed requests asked for. -/
theorem latest_wins_of_refusal :
    let l := (start "" .fresh).run oneListen
    let es : List Event := [.act (.listens (.card 0 (.rate .loved))), .reply 2 (.answered 200 []),
      .act (.listens (.card 0 (.rate .hated))), .reply 3 (.answered 500 [])]
    l.shown? 3 0 = some .neutral ∧ (l.run es).shown? 3 0 = some .loved ∧
      LatestWins .neutral (l.confirmationsOf 3 0 es) .loved := by
  intro l es
  obtain ⟨h₀, h, hcs⟩ : l.shown? 3 0 = some .neutral ∧ (l.run es).shown? 3 0 = some .loved ∧
      l.confirmationsOf 3 0 es = [{ request := 2, page := 3, card := 0, score := .loved }] := by
    decide +kernel
  refine ⟨h₀, h, (latest_wins_iff h₀ h).2.2.2.1 ?_⟩
  rw [hcs]
  exact List.pairwise_singleton _ _

/-- **The latest request loses** where replies cross. The listen is loved and then hated; both are
confirmed, the second one first, and nothing is in flight any more: the card shows it as loved. -/
theorem latest_loses :
    let l := (start "" .fresh).run oneListen
    let es : List Event := [.act (.listens (.card 0 (.rate .loved))),
      .act (.listens (.card 0 (.rate .hated))), .reply 3 (.answered 200 []),
      .reply 2 (.answered 200 [])]
    l.shown? 3 0 = some .neutral ∧ (l.run es).shown? 3 0 = some .loved ∧
      ((l.run es).inFlight 3 0).length = 0 ∧
      ¬ LatestWins .neutral (l.confirmationsOf 3 0 es) .loved := by
  intro l es
  obtain ⟨h₀, h, hidle, hcs⟩ : l.shown? 3 0 = some .neutral ∧
      (l.run es).shown? 3 0 = some .loved ∧ ((l.run es).inFlight 3 0).length = 0 ∧
      l.confirmationsOf 3 0 es =
        [{ request := 3, page := 3, card := 0, score := .hated },
          { request := 2, page := 3, card := 0, score := .loved }] := by decide +kernel
  refine ⟨h₀, h, hidle, fun hw => ?_⟩
  rw [hcs] at hw
  exact absurd (hw.latest { request := 3, page := 3, card := 0, score := .hated } (by decide)
    (by decide)) (by decide)

end Live

end ListenDeck
