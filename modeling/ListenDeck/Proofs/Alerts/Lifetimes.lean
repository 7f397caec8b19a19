import ListenDeck.Alerts.Queue
import Mathlib.Data.List.Basic

/-!
# How long alerts stay

What a queue holds is read back from what happened to it: the alerts raised so far, in order, less
those whose timeout has passed and those that were dismissed since they were raised.

* `AlertQueue.raisings`: the alerts that events raise, each with the events since.
* `AlertQueue.Lawful`: what a queue is after events (`run_lawful`).
* `TimedQueue`: a queue whose alerts have a timer each, which fires at some moment after the
  deadline and dismisses its alert.
* `TimedQueue.Follows`: such a queue is like one without timers, but for alerts that are overdue
  (`run_follows`).
-/

namespace ListenDeck

namespace AlertQueue

deriving instance DecidableEq for Event

/-! ## The law of a queue -/

/-- The alerts that events raise, in order, each with the events since; the clock and the number of
the latest alert are those before the events. -/
def raisings (now last : Nat) : List Event → List (Alert × List Event)
  | [] => []
  | .raise timeout notice :: rest =>
    ({ number := last + 1, notice, deadline := now + timeout }, rest) ::
      raisings now (last + 1) rest
  | .dismiss _ :: rest => raisings now last rest
  | .pass ms :: rest => raisings (now + ms) last rest

/-- An alert stays: its timeout has not passed, and nobody has dismissed it since. -/
def Stays (clock : Nat) (raising : Alert × List Event) : Prop :=
  clock < raising.1.deadline ∧ .dismiss raising.1.number ∉ raising.2

instance (clock : Nat) (raising : Alert × List Event) : Decidable (Stays clock raising) :=
  inferInstanceAs (Decidable (_ ∧ _))

/-- The milliseconds that pass. -/
def elapsed : List Event → Nat
  | [] => 0
  | .pass ms :: rest => ms + elapsed rest
  | .raise _ _ :: rest => elapsed rest
  | .dismiss _ :: rest => elapsed rest

variable {now last : Nat} {q : AlertQueue}

theorem run_raise (now : Nat) (q : AlertQueue) (timeout : Nat) (notice : Notice) (es : List Event) :
    run (now, q) (.raise timeout notice :: es) =
      run (now, (q.raise now timeout notice).expire now) es := rfl

theorem run_dismiss (now : Nat) (q : AlertQueue) (number : Nat) (es : List Event) :
    run (now, q) (.dismiss number :: es) = run (now, q.dismiss number) es := rfl

theorem run_pass (now : Nat) (q : AlertQueue) (ms : Nat) (es : List Event) :
    run (now, q) (.pass ms :: es) = run (now + ms, q.expire (now + ms)) es := rfl

theorem run_append (start : Nat × AlertQueue) (es fs : List Event) :
    run start (es ++ fs) = run (run start es) fs := List.foldl_append

theorem run_clock (now : Nat) (q : AlertQueue) (es : List Event) :
    (run (now, q) es).1 = now + elapsed es := by
  induction es generalizing now q with
  | nil => rfl
  | cons e es ih =>
    cases e with
    | raise timeout notice => exact ih now _
    | dismiss number => exact ih now _
    | pass ms => exact (ih (now + ms) _).trans (Nat.add_assoc ..)

theorem clock_le (now : Nat) (q : AlertQueue) (es : List Event) : now ≤ (run (now, q) es).1 :=
  le_of_le_of_eq (Nat.le_add_right ..) (run_clock now q es).symm

/-- **Alerts are numbered in the order they were raised**, without gaps. -/
theorem raisings_numbers (now last : Nat) (es : List Event) :
    (raisings now last es).map (·.1.number) =
      List.range' (last + 1) (raisings now last es).length := by
  induction es generalizing now last with
  | nil => rfl
  | cons e es ih =>
    cases e with
    | raise timeout notice => exact congrArg (List.cons (last + 1)) (ih now (last + 1))
    | dismiss number => exact ih now last
    | pass ms => exact ih (now + ms) last

theorem run_last (now : Nat) (q : AlertQueue) (es : List Event) :
    (run (now, q) es).2.last = q.last + (raisings now q.last es).length := by
  induction es generalizing now q with
  | nil => rfl
  | cons e es ih =>
    cases e with
    | raise timeout notice =>
      rw [run_raise, ih]
      exact Nat.add_right_comm q.last 1 _
    | dismiss number => exact ih now _
    | pass ms => exact ih (now + ms) _

/-- No alert of the queue is overdue. -/
def Prompt (now : Nat) (q : AlertQueue) : Prop := ∀ a ∈ q.alerts, now < a.deadline

theorem prompt_expire (now : Nat) (q : AlertQueue) : Prompt now (q.expire now) := fun _ ha =>
  of_decide_eq_true (List.mem_filter.mp ha).2

theorem expire_of_prompt (h : Prompt now q) : q.expire now = q := by
  unfold expire
  rw [List.filter_eq_self.mpr fun a ha => decide_eq_true (h a ha)]

theorem stays_cons {clock : Nat} {a : Alert} {e : Event} {es : List Event} :
    Stays clock (a, e :: es) ↔ e ≠ .dismiss a.number ∧ Stays clock (a, es) := by
  unfold Stays
  rw [List.mem_cons, not_or, eq_comm]
  exact and_left_comm

theorem filter_expire {clock : Nat} (h : now ≤ clock) (q : AlertQueue) (es : List Event) :
    (q.expire now).alerts.filter (fun a => Stays clock (a, es)) =
      q.alerts.filter fun a => Stays clock (a, es) := by
  unfold expire
  rw [List.filter_filter]
  refine List.filter_congr fun a _ => ?_
  rw [← Bool.decide_and, decide_eq_decide]
  exact and_iff_left_of_imp fun hs => Nat.lt_of_le_of_lt h hs.1

/-- **What a queue holds**: the alerts it held before and the alerts raised since, as far as they
stay. -/
theorem run_alerts (h : Prompt now q) (es : List Event) :
    (run (now, q) es).2.alerts =
      q.alerts.filter (fun a => Stays (run (now, q) es).1 (a, es)) ++
        ((raisings now q.last es).filter fun r => Stays (run (now, q) es).1 r).map Prod.fst := by
  induction es generalizing now q with
  | nil =>
    have hall : ∀ a ∈ q.alerts, decide (Stays now (a, [])) = true := fun a ha =>
      decide_eq_true ⟨h a ha, List.not_mem_nil⟩
    exact ((List.append_nil _).trans (List.filter_eq_self.mpr hall)).symm
  | cons e es ih =>
    cases e with
    | raise timeout notice =>
      rw [run_raise, ih (prompt_expire now _), filter_expire (clock_le now _ es)]
      -- the new alert is overdue at once if its timeout is zero
      simp only [stays_cons, raise, expire, raisings, List.filter_append, List.append_assoc,
        List.filter_cons, List.filter_nil, ne_eq, reduceCtorEq, not_false_eq_true, true_and]
      split_ifs <;> rfl
    | dismiss number =>
      rw [run_dismiss, ih fun a ha => h a (List.mem_of_mem_filter ha), dismiss, List.filter_filter]
      simp only [stays_cons, ne_eq, Event.dismiss.injEq, Bool.decide_and, eq_comm, Bool.and_comm]
      rfl
    | pass ms =>
      rw [run_pass, ih (prompt_expire _ q), filter_expire (clock_le _ _ es)]
      simp only [stays_cons, ne_eq, reduceCtorEq, not_false_eq_true, true_and]
      rfl

/-- **What a queue is after events**, if it was empty before them: the clock has moved on, alerts
have the numbers from 1 on in the order they were raised, and those that stay are there, in that
order. -/
structure Lawful (now : Nat) (events : List Event) (after : Nat × AlertQueue) : Prop where
  clock : after.1 = now + elapsed events
  last : after.2.last = (raisings now 0 events).length
  numbers : (raisings now 0 events).map (·.1.number) =
    List.range' 1 (raisings now 0 events).length
  alerts : after.2.alerts =
    ((raisings now 0 events).filter fun r => Stays after.1 r).map Prod.fst

theorem run_lawful (now : Nat) (events : List Event) :
    Lawful now events (run (now, {}) events) where
  clock := run_clock now {} events
  last := (run_last now {} events).trans (Nat.zero_add _)
  numbers := raisings_numbers now 0 events
  alerts := run_alerts (fun _ ha => absurd ha List.not_mem_nil) events

/-! ## Alerts that are overdue -/

theorem expire_expire_add (now ms : Nat) (q : AlertQueue) :
    (q.expire now).expire (now + ms) = q.expire (now + ms) := by
  unfold expire
  rw [List.filter_filter]
  refine congrArg (AlertQueue.mk q.last) (List.filter_congr fun a _ => ?_)
  rw [← Bool.decide_and, decide_eq_decide]
  omega

theorem expire_raise_expire (now timeout : Nat) (notice : Notice) (q : AlertQueue) :
    ((q.expire now).raise now timeout notice).expire now =
      (q.raise now timeout notice).expire now := by
  simp only [raise, expire, List.filter_append, List.filter_filter, Bool.and_self]

theorem dismiss_expire (now number : Nat) (q : AlertQueue) :
    (q.expire now).dismiss number = (q.dismiss number).expire now := by
  simp only [dismiss, expire, List.filter_filter, Bool.and_comm]

end AlertQueue

/-! ## Timers -/

/-- A timer that dismisses the alert of a number, at its moment or later. -/
structure AlertTimer where
  number : Nat
  moment : Nat
  deriving DecidableEq, Repr

/-- A queue whose alerts go away by a timer each. -/
structure TimedQueue where
  now : Nat
  queue : AlertQueue := {}
  /-- The timers that have not fired yet. -/
  timers : List AlertTimer := []
  deriving DecidableEq, Repr

namespace TimedQueue

/-- What happens to a queue with timers. -/
inductive Event where
  | plain (event : AlertQueue.Event)
  /-- The timer of an alert fires, if its moment has come. -/
  | fire (number : Nat)
  deriving DecidableEq, Repr

/-- What happens to the queue without timers. -/
def Event.plain? : Event → Option AlertQueue.Event
  | .plain event => some event
  | .fire _ => none

/-- The timer of an alert may fire. -/
def Due (t : TimedQueue) (number : Nat) : Prop :=
  ∃ x ∈ t.timers, x.number = number ∧ x.moment ≤ t.now

instance (t : TimedQueue) (number : Nat) : Decidable (t.Due number) :=
  inferInstanceAs (Decidable (∃ x ∈ t.timers, _))

/-- The queue and its timers after an event. -/
def step (t : TimedQueue) : Event → TimedQueue
  | .plain (.raise timeout notice) =>
    { t with
      queue := t.queue.raise t.now timeout notice
      timers := t.timers ++ [⟨t.queue.last + 1, t.now + timeout⟩] }
  | .plain (.dismiss number) => { t with queue := t.queue.dismiss number }
  | .plain (.pass ms) => { t with now := t.now + ms }
  | .fire number =>
    if t.Due number then
      { t with queue := t.queue.dismiss number, timers := t.timers.filter (·.number ≠ number) }
    else t

/-- The queue and its timers after a list of events. -/
def run (t : TimedQueue) (events : List Event) : TimedQueue := events.foldl step t

/-- **Alerts and timers belong together**: every alert has a timer of its number, set to its
deadline, and no other timer has that number. -/
structure Paired (t : TimedQueue) : Prop where
  alert_le : ∀ a ∈ t.queue.alerts, a.number ≤ t.queue.last
  timer_le : ∀ x ∈ t.timers, x.number ≤ t.queue.last
  timer : ∀ a ∈ t.queue.alerts, ⟨a.number, a.deadline⟩ ∈ t.timers
  moment : ∀ a ∈ t.queue.alerts, ∀ x ∈ t.timers, x.number = a.number → x.moment = a.deadline

variable {t : TimedQueue}

theorem step_paired (h : t.Paired) (e : Event) : (t.step e).Paired := by
  rcases e with (⟨timeout, notice⟩ | number | ms) | number
  · refine ⟨fun a ha => ?_, fun x hx => ?_, fun a ha => ?_, fun a ha x hx hn => ?_⟩
    all_goals simp only [step, AlertQueue.raise, List.mem_append, List.mem_singleton] at *
    · rcases ha with ha | rfl
      · exact Nat.le_succ_of_le (h.alert_le a ha)
      · exact Nat.le_refl _
    · rcases hx with hx | rfl
      · exact Nat.le_succ_of_le (h.timer_le x hx)
      · exact Nat.le_refl _
    · rcases ha with ha | rfl
      · exact .inl (h.timer a ha)
      · exact .inr rfl
    · -- the number is new, among the alerts and among the timers
      rcases ha with ha | rfl <;> rcases hx with hx | rfl
      · exact h.moment a ha x hx hn
      · exact absurd (hn ▸ h.alert_le a ha) (Nat.not_succ_le_self _)
      · exact absurd (hn ▸ h.timer_le x hx) (Nat.not_succ_le_self _)
      · rfl
  · have hsub : ∀ a ∈ (t.queue.dismiss number).alerts, a ∈ t.queue.alerts := fun a ha =>
      List.mem_of_mem_filter ha
    exact ⟨fun a ha => h.alert_le a (hsub a ha), h.timer_le, fun a ha => h.timer a (hsub a ha),
      fun a ha => h.moment a (hsub a ha)⟩
  · exact ⟨h.alert_le, h.timer_le, h.timer, h.moment⟩
  · rw [step]
    split_ifs
    · have hsub : ∀ a ∈ (t.queue.dismiss number).alerts, a ∈ t.queue.alerts ∧ a.number ≠ number :=
        fun a ha => by simpa [AlertQueue.dismiss] using ha
      have hkept : ∀ x ∈ t.timers.filter (·.number ≠ number), x ∈ t.timers := fun x hx =>
        List.mem_of_mem_filter hx
      refine ⟨fun a ha => h.alert_le a (hsub a ha).1, fun x hx => h.timer_le x (hkept x hx),
        fun a ha => ?_, fun a ha x hx => h.moment a (hsub a ha).1 x (hkept x hx)⟩
      exact List.mem_filter.mpr ⟨h.timer a (hsub a ha).1, decide_eq_true (hsub a ha).2⟩
    · exact h

/-- The queue shows what one without timers does, and alerts that are overdue besides. -/
def Shows (t : TimedQueue) (plain : Nat × AlertQueue) : Prop :=
  (t.now, t.queue.expire t.now) = plain

/-- A timer that fires takes an alert that is overdue, if any. -/
theorem expire_dismiss_of_due (h : t.Paired) {number : Nat} (hd : t.Due number) :
    (t.queue.dismiss number).expire t.now = t.queue.expire t.now := by
  obtain ⟨x, hx, rfl, hle⟩ := hd
  unfold AlertQueue.dismiss AlertQueue.expire
  rw [List.filter_filter]
  refine congrArg (AlertQueue.mk t.queue.last) (List.filter_congr fun a ha => ?_)
  rw [← Bool.decide_and, decide_eq_decide]
  refine and_iff_left_of_imp fun hlt hn => ?_
  exact absurd (h.moment a ha x hx hn.symm) (by omega)

theorem step_shows (h : t.Paired) {plain : Nat × AlertQueue} (hs : t.Shows plain) (e : Event) :
    (t.step e).Shows (AlertQueue.run plain e.plain?.toList) := by
  obtain rfl := hs
  rcases e with (⟨timeout, notice⟩ | number | ms) | number
  · exact congrArg (Prod.mk t.now) (AlertQueue.expire_raise_expire t.now timeout notice _).symm
  · exact congrArg (Prod.mk t.now) (AlertQueue.dismiss_expire t.now number _).symm
  · exact congrArg (Prod.mk (t.now + ms)) (AlertQueue.expire_expire_add t.now ms _).symm
  · rw [step]
    split_ifs with hd
    · exact congrArg (Prod.mk t.now) (expire_dismiss_of_due h hd)
    · rfl

/-- **Timers make no difference**, in whatever order they fire and however late: but for the alerts
that are overdue a queue shows what it does without. -/
theorem run_shows (h : t.Paired) {plain : Nat × AlertQueue} (hs : t.Shows plain)
    (events : List Event) :
    (t.run events).Paired ∧
      (t.run events).Shows (AlertQueue.run plain (events.filterMap Event.plain?)) := by
  induction events generalizing t plain with
  | nil => exact ⟨h, hs⟩
  | cons e es ih =>
    obtain ⟨hpaired, hshows⟩ := ih (step_paired h e) (step_shows h hs e)
    refine ⟨hpaired, ?_⟩
    rw [← AlertQueue.run_append] at hshows
    cases e <;> exact hshows

/-- **How a queue with timers stands to one without**: they differ in alerts that are overdue, and
in nothing once no timer may fire. A timer that may fire takes its alert when it does and is used
up, so once all of them have fired, in any order, no difference is left. A timer takes its own alert
only, not before its deadline, and changes nothing if its alert is gone. -/
structure Follows (t : TimedQueue) (plain : Nat × AlertQueue) : Prop where
  shows : t.Shows plain
  settled : (∀ number, ¬ t.Due number) → (t.now, t.queue) = plain
  fires : ∀ number, t.Due number →
    (t.step (.fire number)).queue = t.queue.dismiss number ∧
      ∀ other, (t.step (.fire number)).Due other ↔ t.Due other ∧ other ≠ number
  settles : ∀ numbers : List Nat, (∀ number, t.Due number → number ∈ numbers) →
    ((t.run (numbers.map .fire)).now, (t.run (numbers.map .fire)).queue) = plain
  spares : ∀ number, ∀ a ∈ t.queue.alerts, a ∉ (t.step (.fire number)).queue.alerts →
    a.number = number ∧ a.deadline ≤ t.now
  absent : ∀ number, (∀ a ∈ t.queue.alerts, a.number ≠ number) →
    (t.step (.fire number)).queue = t.queue

theorem fresh_paired (now : Nat) : ({ now } : TimedQueue).Paired := by
  constructor <;> simp

theorem expire_of_no_due (h : t.Paired) (hq : ∀ number, ¬ t.Due number) :
    t.queue.expire t.now = t.queue :=
  AlertQueue.expire_of_prompt fun a ha =>
    Nat.lt_of_not_le fun hle => hq a.number ⟨_, h.timer a ha, rfl, hle⟩

/-- **A timer that may fire** takes its alert and is used up. -/
theorem fire_due {number : Nat} (hd : t.Due number) :
    (t.step (.fire number)).queue = t.queue.dismiss number ∧
      ∀ other, (t.step (.fire number)).Due other ↔ t.Due other ∧ other ≠ number := by
  rw [step, if_pos hd]
  refine ⟨rfl, fun other => ?_⟩
  simp only [Due, List.mem_filter, decide_eq_true_eq]
  constructor
  · rintro ⟨x, ⟨hx, hne⟩, rfl, hle⟩
    exact ⟨⟨x, hx, rfl, hle⟩, hne⟩
  · rintro ⟨⟨x, hx, rfl, hle⟩, hne⟩
    exact ⟨x, ⟨hx, hne⟩, rfl, hle⟩

theorem due_run_fires (t : TimedQueue) (numbers : List Nat) (number : Nat) :
    (t.run (numbers.map .fire)).Due number ↔ t.Due number ∧ number ∉ numbers := by
  induction numbers generalizing t with
  | nil => simp [run]
  | cons n numbers ih =>
    have hstep : (t.step (.fire n)).Due number ↔ t.Due number ∧ number ≠ n := by
      by_cases hd : t.Due n
      · exact (fire_due hd).2 number
      · rw [step, if_neg hd]
        refine (and_iff_left_of_imp fun h hn => ?_).symm
        exact hd (hn ▸ h)
    rw [List.mem_cons, not_or, ← and_assoc, ← hstep]
    exact ih (t.step (.fire n))

/-- **A timer takes its own alert only**, and not before its deadline. -/
theorem fire_spares (h : t.Paired) {number : Nat} {a : Alert} (ha : a ∈ t.queue.alerts)
    (hgone : a ∉ (t.step (.fire number)).queue.alerts) :
    a.number = number ∧ a.deadline ≤ t.now := by
  rw [step] at hgone
  split_ifs at hgone with hd
  · have hn : a.number = number := by
      by_contra hne
      exact hgone (List.mem_filter.mpr ⟨ha, decide_eq_true hne⟩)
    obtain ⟨x, hx, hxn, hle⟩ := hd
    rw [h.moment a ha x hx (hxn.trans hn.symm)] at hle
    exact ⟨hn, hle⟩
  · exact absurd ha hgone

/-- **A timer that fires after its alert was dismissed changes nothing.** -/
theorem fire_of_absent {number : Nat} (h : ∀ a ∈ t.queue.alerts, a.number ≠ number) :
    (t.step (.fire number)).queue = t.queue := by
  rw [step]
  split_ifs
  · exact congrArg (AlertQueue.mk t.queue.last)
      (List.filter_eq_self.mpr fun a ha => decide_eq_true (h a ha))
  · rfl

theorem eq_of_no_due (h : t.Paired) {plain : Nat × AlertQueue} (hs : t.Shows plain)
    (hq : ∀ number, ¬ t.Due number) : (t.now, t.queue) = plain := by
  rw [← hs, expire_of_no_due h hq]

/-- **Every run of a queue with timers** follows the run of one without. -/
theorem run_follows (now : Nat) (events : List Event) :
    (TimedQueue.run { now } events).Follows
      (AlertQueue.run (now, {}) (events.filterMap Event.plain?)) := by
  obtain ⟨hpaired, hshows⟩ := @run_shows _ (fresh_paired now) (now, {}) rfl events
  refine ⟨hshows, eq_of_no_due hpaired hshows, fun number => fire_due, fun numbers hall => ?_,
    fun number a => fire_spares hpaired, fun number => fire_of_absent⟩
  -- timers that fire are no event of the queue without timers
  obtain ⟨hpaired', hshows'⟩ := run_shows hpaired hshows (numbers.map .fire)
  have hnone : (numbers.map Event.fire).filterMap Event.plain? = [] := by
    rw [List.filterMap_map, List.filterMap_eq_nil_iff]
    exact fun _ _ => rfl
  rw [hnone] at hshows'
  refine eq_of_no_due hpaired' hshows' fun number hdue => ?_
  obtain ⟨hwas, hnot⟩ := (due_run_fires _ numbers number).mp hdue
  exact hnot (hall number hwas)

end TimedQueue

end ListenDeck
