import ListenDeck.App.Live
import Mathlib.Data.List.Basic

/-!
# The requests of a run

Which event sends which request. Requests are numbered as they are sent, so the ones an event sends
are those that wait after it under a number that was not taken before.

* `Live.Sends`: what sending requests for calls does.
* `Live.sent`, `Live.sent_spec`: the requests an event sends.
* `Live.log`: the requests of a run, those of one event after those of another.
* `Live.log_numbers`: the log misses no request, and `Live.mem_log` finds the event of each.
-/

namespace ListenDeck

namespace Live

/-- The calls that a reply leads to are of a kind. -/
def FollowUp (P : Pending → Prop) : Prop :=
  ∀ (a : App) (c : Pending) (result : Except ServerError c.errand.call.Result),
    ∀ d ∈ (a.receive c result).2, P d

theorem followUp_true : FollowUp fun _ => True := fun _ _ _ _ _ => trivial

/-- The numbers of the requests that wait are taken. -/
def Numbered (l : Live) : Prop := ∀ s ∈ l.waiting, s.number < l.requests

/-! ## Making calls -/

/-- **Requests are sent** for calls of a kind: they wait behind the others, under the next numbers,
each as its call has it. -/
structure Sends (P : Pending → Prop) (l l' : Live) (new : List Sent) : Prop where
  waiting : l'.waiting = l.waiting ++ new
  requests : l'.requests = l.requests + new.length
  numbers : new.map (·.number) = List.range' l.requests new.length
  calls : ∀ s ∈ new, P s.call
  built : ∀ s ∈ new, s.call.errand.call.request? s.call.base = .ok s.request

section Dispatch
variable {P : Pending → Prop}

theorem Sends.refl (l : Live) (a : App) : Sends P l { l with app := a } [] where
  waiting := (List.append_nil _).symm
  requests := rfl
  numbers := rfl
  calls := fun _ hs => absurd hs List.not_mem_nil
  built := fun _ hs => absurd hs List.not_mem_nil

theorem Sends.cons {l l' : Live} {c : Pending} {request : Request} {new : List Sent} (hc : P c)
    (hb : c.errand.call.request? c.base = .ok request)
    (h : Sends P { l with
      waiting := l.waiting ++ [{ number := l.requests, call := c, request }]
      requests := l.requests + 1 } l' new) :
    Sends P l l' ({ number := l.requests, call := c, request } :: new) where
  waiting := by rw [h.waiting, List.append_assoc, List.singleton_append]
  requests := by rw [h.requests, List.length_cons, Nat.add_assoc, Nat.add_comm 1]
  numbers := by rw [List.map_cons, h.numbers, List.length_cons, List.range'_succ]
  calls := List.forall_mem_cons.mpr ⟨hc, h.calls⟩
  built := List.forall_mem_cons.mpr ⟨hb, h.built⟩

theorem Sends.of_app {l l' : Live} {a : App} {new : List Sent}
    (h : Sends P { l with app := a } l' new) : Sends P l l' new :=
  ⟨h.waiting, h.requests, h.numbers, h.calls, h.built⟩

variable (hfollow : FollowUp P)
include hfollow

/-- Requests are sent for the calls that are made, and for those they lead to. -/
theorem dispatch_sends (fuel : Nat) (l : Live) (calls : List Pending) (h : ∀ c ∈ calls, P c) :
    ∃ new, Sends P l (dispatch fuel l calls) new := by
  induction fuel generalizing l calls with
  | zero => exact ⟨[], Sends.refl l l.app⟩
  | succ fuel ih =>
    cases calls with
    | nil => exact ⟨[], Sends.refl l l.app⟩
    | cons c rest =>
      obtain ⟨hc, hrest⟩ := List.forall_mem_cons.mp h
      simp only [dispatch]
      split
      · next request hsend =>
        obtain ⟨new, hnew⟩ := ih _ rest hrest
        refine ⟨_, hnew.cons hc ?_⟩
        unfold Call.send at hsend
        split at hsend
        · cases hsend
        · split at hsend
          · cases hsend
          · next hr =>
            cases hsend
            exact hr
      · next result hsend =>
        obtain ⟨new, hnew⟩ := ih { l with app := (l.app.receive c result).1 }
          (rest ++ (l.app.receive c result).2)
          (List.forall_mem_append.mpr ⟨hrest, hfollow l.app c result⟩)
        exact ⟨new, hnew.of_app⟩

end Dispatch

/-! ## Events -/

/-- The requests that an event sends. -/
def sent (l : Live) (e : Event) : List Sent :=
  (l.step e).waiting.filter (l.requests ≤ ·.number)

section Step
variable {P : Pending → Prop} {l : Live}

theorem filter_waiting {l' : Live} {new kept : List Sent} (hl : l.Numbered)
    (hkept : kept ⊆ l.waiting) (h : Sends P { l with waiting := kept } l' new) :
    l'.waiting.filter (l.requests ≤ ·.number) = new := by
  have hold : kept.filter (l.requests ≤ ·.number) = [] := by
    rw [List.filter_eq_nil_iff]
    intro s hs
    have := hl s (hkept hs)
    simpa using this
  have hnew : new.filter (l.requests ≤ ·.number) = new := by
    rw [List.filter_eq_self]
    intro s hs
    have hmem := List.mem_map_of_mem (f := (·.number)) hs
    rw [h.numbers, List.mem_range'_1] at hmem
    simpa using hmem.1
  rw [h.waiting, List.filter_append, hold, hnew, List.nil_append]

theorem Sends.numbered {l' : Live} {new kept : List Sent} (hl : l.Numbered)
    (hkept : kept ⊆ l.waiting) (h : Sends P { l with waiting := kept } l' new) : l'.Numbered := by
  intro s hs
  rw [h.waiting, List.mem_append] at hs
  rw [h.requests]
  rcases hs with hs | hs
  · exact Nat.lt_add_right _ (hl s (hkept hs))
  · have hmem := List.mem_map_of_mem (f := (·.number)) hs
    rw [h.numbers, List.mem_range'_1] at hmem
    exact hmem.2

variable (hfollow : FollowUp P)
include hfollow

/-- An event lets some requests wait and sends others: for the calls that it makes, and for those
that replies lead to. -/
theorem step_sends (l : Live) (e : Event)
    (hact : ∀ m, e = .act m → ∀ c ∈ (l.app.update m).2, P c) :
    ∃ kept new, kept ⊆ l.waiting ∧ Sends P { l with waiting := kept } (l.step e) new := by
  cases e with
  | act m =>
    obtain ⟨new, hnew⟩ := dispatch_sends hfollow maxCalls { l with app := (l.app.update m).1 }
      (l.app.update m).2 (hact m rfl)
    exact ⟨l.waiting, new, List.Subset.refl _, hnew.of_app⟩
  | reply number reply =>
    simp only [step, settle]
    split
    · exact ⟨l.waiting, [], List.Subset.refl _, Sends.refl l l.app⟩
    · next s hs =>
      obtain ⟨new, hnew⟩ := dispatch_sends hfollow maxCalls
        { l with
          waiting := l.waiting.filter (·.number ≠ number)
          app := (l.app.receive s.call (s.call.errand.call.settle s.request reply)).1 }
        _ (hfollow l.app s.call (s.call.errand.call.settle s.request reply))
      exact ⟨_, new, List.filter_subset_self _, hnew.of_app⟩
  | pass ms => exact ⟨l.waiting, [], List.Subset.refl _, Sends.refl l (l.app.pass ms)⟩

/-- **The requests an event sends** take the next numbers, and each is that of its call. -/
theorem sent_spec (hl : l.Numbered) (e : Event)
    (hact : ∀ m, e = .act m → ∀ c ∈ (l.app.update m).2, P c) :
    (l.step e).Numbered ∧ (l.step e).requests = l.requests + (l.sent e).length ∧
      (l.sent e).map (·.number) = List.range' l.requests (l.sent e).length ∧
      ∀ s ∈ l.sent e, P s.call ∧ s.call.errand.call.request? s.call.base = .ok s.request := by
  obtain ⟨kept, new, hkept, h⟩ := step_sends hfollow l e hact
  have hsent : l.sent e = new := filter_waiting hl hkept h
  rw [hsent]
  exact ⟨h.numbered hl hkept, h.requests, h.numbers, fun s hs => ⟨h.calls s hs, h.built s hs⟩⟩

end Step

/-! ## Runs -/

/-- The requests of a run, those of one event after those of another. -/
def log : Live → List Event → List Sent
  | _, [] => []
  | l, e :: es => l.sent e ++ log (l.step e) es

theorem run_cons (l : Live) (e : Event) (es : List Event) :
    l.run (e :: es) = (l.step e).run es := rfl

/-- **A request of the log was sent by an event of the run.** -/
theorem mem_log {l : Live} {es : List Event} {s : Sent} :
    s ∈ l.log es ↔ ∃ before e after, es = before ++ e :: after ∧ s ∈ (l.run before).sent e := by
  induction es generalizing l with
  | nil => simp [log]
  | cons first es ih =>
    rw [log, List.mem_append, ih]
    constructor
    · rintro (hs | ⟨before, e, after, rfl, hs⟩)
      · exact ⟨[], first, es, rfl, hs⟩
      · exact ⟨first :: before, e, after, rfl, hs⟩
    · rintro ⟨before, e, after, hes, hs⟩
      cases before with
      | nil =>
        obtain ⟨rfl, rfl⟩ := List.cons.inj hes
        exact .inl hs
      | cons x before =>
        obtain ⟨rfl, rfl⟩ := List.cons.inj hes
        exact .inr ⟨before, e, after, rfl, hs⟩

theorem step_numbered {l : Live} (hl : l.Numbered) (e : Event) : (l.step e).Numbered :=
  (sent_spec followUp_true hl e fun _ _ _ _ => trivial).1

theorem run_numbered {l : Live} (hl : l.Numbered) (es : List Event) : (l.run es).Numbered := by
  induction es generalizing l with
  | nil => exact hl
  | cons e es ih => exact ih (step_numbered hl e)

/-- **The log misses no request**: its numbers are those the run takes, each of them once. -/
theorem log_numbers {l : Live} (hl : l.Numbered) (es : List Event) :
    (l.run es).requests = l.requests + (l.log es).length ∧
      (l.log es).map (·.number) = List.range' l.requests (l.log es).length := by
  induction es generalizing l with
  | nil => exact ⟨rfl, rfl⟩
  | cons e es ih =>
    obtain ⟨hnum, hcount, hsent, -⟩ :=
      sent_spec followUp_true hl e fun _ _ _ _ => trivial
    obtain ⟨hrun, hlog⟩ := ih hnum
    refine ⟨?_, ?_⟩
    · rw [run_cons, hrun, hcount, log, List.length_append, Nat.add_assoc]
    · rw [log, List.map_append, hsent, hlog, hcount, List.length_append, List.range'_append_1]

/-! ## Starting -/

theorem start_sends {P : Pending → Prop} (hfollow : FollowUp P) (home : String) (store : Store)
    (h : ∀ c ∈ (App.start home store).2, P c) :
    (start home store).Numbered ∧ (start home store).requests = (start home store).waiting.length ∧
      ∀ s ∈ (start home store).waiting,
        P s.call ∧ s.call.errand.call.request? s.call.base = .ok s.request := by
  let l : Live := { app := (App.start home store).1 }
  obtain ⟨new, hnew⟩ := dispatch_sends hfollow maxCalls l (App.start home store).2 h
  have hs : Sends P { l with waiting := [] } (start home store) new := hnew
  have hw : (start home store).waiting = new := hs.waiting
  refine ⟨?_, ?_, ?_⟩
  · exact hs.numbered (fun _ hmem => absurd hmem List.not_mem_nil) (List.Subset.refl _)
  · rw [hs.requests, hw, Nat.zero_add]
  · rw [hw]
    exact fun s hmem => ⟨hs.calls s hmem, hs.built s hmem⟩

end Live

end ListenDeck
