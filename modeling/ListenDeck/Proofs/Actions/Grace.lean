import ListenDeck.Proofs.Actions.Arming

/-!
# Removals after a grace

A run at a desk of actions, told by the timers it armed: how far each got, and which items are left.

* `Desk.Ledger`: the timers that wait and the items that are left, in terms of the timers that were
  armed. Every run keeps it (`step_ledger`, `run_ledger`).
* `Desk.candidates`: the timers that the next command can end; `next_timers`, `next_items` and
  `next_ends` say what becomes of them.
* `Desk.ended_perm`: a timer ends once.
* `Desk.removals_graced`: an item leaves only when the grace of a timer is over.
-/

namespace ListenDeck

namespace Desk

/-! ## The ledger -/

section Ledger
variable (d : Desk)

/-- **The timers that wait and the items that are left**, in terms of the timers that were armed. -/
structure Ledger (cs : List Command) : Prop where
  grace : (d.run cs).1.removals.grace = d.removals.grace
  now : ∀ a ∈ d.armings 0 cs, (d.run cs).1.removals.now = a.time + elapsedMs (a.later cs)
  place : ∀ a ∈ d.armings 0 cs, a.place < cs.length
  timers : (d.run cs).1.removals.timers =
    ((d.armings 0 cs).filter fun a => a.status d.removals.grace cs = .waiting).map
      (Arming.timer d.removals.grace)
  items : (d.run cs).1.removals.items = d.removals.items.filter fun i =>
    (d.armings 0 cs).all fun a =>
      !(a.status d.removals.grace cs = .elapsed && a.identity = i.identity)

/-- What is told of a timer that ended. -/
def reportOf (e : RemovalTimer × TimerEnd) : String × Identity × Nat × TimerStatus :=
  (e.1.name, e.1.identity, e.1.armedAt, e.2.status)

/-- What is told of a timer that was armed. -/
def Arming.report (grace : Nat) (cs : List Command) (a : Arming) :
    String × Identity × Nat × TimerStatus :=
  (a.name, a.identity, a.time, a.status grace cs)

/-- The timers that can end with the next command: those that wait, and the one that it arms. -/
def candidates (cs : List Command) (c : Command) : List Arming :=
  ((d.armings 0 cs).filter fun a => a.status d.removals.grace cs = .waiting) ++
    ((d.run cs).1.arming? cs.length c).toList

theorem stays_iff (grace : Nat) (cs : List Command) (as : List Arming) (identity : Identity) :
    (as.all fun a => !(a.status grace cs = .elapsed && a.identity = identity)) = true ↔
      ∀ a, a ∈ as ∧ a.status grace cs = .elapsed → a.identity ≠ identity := by
  simp only [List.all_eq_true, Bool.not_eq_true', Bool.and_eq_false_iff, decide_eq_false_iff_not,
    and_imp]
  refine forall₂_congr fun a _ => ?_
  rw [Decidable.imp_iff_not_or]

variable {d} {cs : List Command} (h : Ledger d cs) (c : Command)
include h

theorem later_append {a : Arming} (ha : a ∈ d.armings 0 cs) :
    a.later (cs ++ [c]) = a.later cs ++ [c] :=
  List.drop_append_of_le_length (h.place a ha)

/-- **What the next command does to a timer** that can end with it. -/
theorem status_next {a : Arming} (ha : a ∈ d.candidates cs c) :
    a.status d.removals.grace (cs ++ [c]) =
      if c.cancels a.name then .cancelled
      else if a.time + d.removals.grace ≤ (d.run cs).1.removals.now + c.ms then .elapsed
      else .waiting := by
  rcases List.mem_append.mp ha with ha | ha
  · -- a timer that waits: the clock moved on by what it has waited
    obtain ⟨hmem, hw⟩ := List.mem_filter.mp ha
    rw [decide_eq_true_eq, Arming.status] at hw
    have hiff : d.removals.grace ≤ elapsedMs (a.later cs) + c.ms ↔
        a.time + d.removals.grace ≤ (d.run cs).1.removals.now + c.ms := by
      rw [h.now a hmem]
      omega
    rw [Arming.status, later_append h c hmem, TimerStatus.after_append_singleton hw]
    simp only [hiff]
  · -- the timer of the command itself: it ends at once only without a grace
    rw [Option.mem_toList] at ha
    obtain ⟨hp, ht, hms, hcan⟩ := of_arming? ha
    have hlater : a.later (cs ++ [c]) = [] := by
      unfold Arming.later
      exact List.drop_eq_nil_of_le (by simp [hp])
    have hiff : a.time + d.removals.grace ≤ (d.run cs).1.removals.now + c.ms ↔
        d.removals.grace = 0 := by omega
    rw [Arming.status, hlater, TimerStatus.after, hcan a.name]
    simp only [hiff, Bool.false_eq_true, if_false]

theorem perform_timers : ((d.run cs).1.perform c).1.removals.timers =
    (d.candidates cs c).map fun a => touch c (a.timer d.removals.grace) := by
  rw [perform_removals _ cs.length c, h.timers, h.grace, candidates, ← List.map_append,
    List.map_map]
  rfl

omit h in
theorem perform_now : ((d.run cs).1.perform c).1.removals.now =
    (d.run cs).1.removals.now + c.ms := by
  rw [perform_removals _ cs.length c]

/-- **A timer that can end is looked at once**, and the look tells how far it got. -/
theorem touched_timer {a : Arming} (ha : a ∈ d.candidates cs c) :
    let t := touch c (a.timer d.removals.grace)
    let now := ((d.run cs).1.perform c).1.removals.now
    Removals.waits now t = decide (a.status d.removals.grace (cs ++ [c]) = .waiting) ∧
      Removals.isOver now t = decide (a.status d.removals.grace (cs ++ [c]) = .elapsed) ∧
      t.cancelled = decide (a.status d.removals.grace (cs ++ [c]) = .cancelled) := by
  intro t now
  rw [status_next h c ha]
  by_cases hc : c.cancels a.name = true
  · have ht : t = { a.timer d.removals.grace with cancelled := true } := if_pos hc
    simp [hc, ht, Removals.waits, Removals.isOver]
  · rw [Bool.not_eq_true] at hc
    have ht : t = a.timer d.removals.grace := touch_of_not hc
    have hnow : now = (d.run cs).1.removals.now + c.ms := perform_now c
    by_cases hd : a.time + d.removals.grace ≤ now
    · simp [hc, ht, ← hnow, hd, Removals.waits, Removals.isOver, Arming.timer]
    · simp [hc, ht, ← hnow, hd, Removals.waits, Removals.isOver, Arming.timer]
      omega

theorem next_timers : ((d.run cs).1.step c).1.removals.timers =
    ((d.candidates cs c).filter
      fun a => a.status d.removals.grace (cs ++ [c]) = .waiting).map
        (Arming.timer d.removals.grace) := by
  simp only [step_removals, perform_timers h c, List.filter_map]
  have hwaits : ∀ a ∈ d.candidates cs c,
      (Removals.waits ((d.run cs).1.perform c).1.removals.now ∘
        fun a => touch c (a.timer d.removals.grace)) a =
      decide (a.status d.removals.grace (cs ++ [c]) = .waiting) :=
    fun a ha => (touched_timer h c ha).1
  rw [List.filter_congr hwaits]
  refine List.map_congr_left fun a ha => touch_of_not ?_
  obtain ⟨ha, hs⟩ := List.mem_filter.mp ha
  rw [decide_eq_true_eq, status_next h c ha] at hs
  by_contra hc
  have hcan : c.cancels a.name = true := Bool.of_not_eq_false hc
  rw [if_pos hcan] at hs
  cases hs

theorem next_items : ((d.run cs).1.step c).1.removals.items =
    (d.run cs).1.removals.items.filter fun i => (d.candidates cs c).all fun a =>
      !(a.status d.removals.grace (cs ++ [c]) = .elapsed && a.identity = i.identity) := by
  have hitems : ((d.run cs).1.perform c).1.removals.items = (d.run cs).1.removals.items := by
    rw [perform_removals _ cs.length c]
  simp only [step_removals, Removals.sweepTimers_items, perform_timers h c, hitems, List.all_map]
  refine List.filter_congr fun i _ => ?_
  rw [Bool.eq_iff_iff, List.all_eq_true, List.all_eq_true]
  refine forall₂_congr fun a ha => ?_
  simp only [Function.comp_apply, (touched_timer h c ha).2.1, touch_identity,
    Arming.timer_identity]

/-- **The timers that end with the next command**, in the order in which they were armed. -/
theorem next_ends : ((d.run cs).1.step c).2.ends.map reportOf =
    ((d.candidates cs c).filter
      fun a => a.status d.removals.grace (cs ++ [c]) ≠ .waiting).map
        (Arming.report d.removals.grace (cs ++ [c])) := by
  have hmap : ∀ ends : List (RemovalTimer × TimerEnd), ends.map reportOf =
      (ends.map fun e => (e.1, e.2.status)).map
        fun e => (e.1.name, e.1.identity, e.1.armedAt, e.2) := by
    simp [reportOf]
  rw [hmap, step_ends]
  simp only [Removals.sweepTimers_ends, perform_timers h c, List.filter_map, List.map_map]
  have hends : ∀ a ∈ d.candidates cs c,
      ((fun t => !Removals.waits ((d.run cs).1.perform c).1.removals.now t) ∘
        fun a => touch c (a.timer d.removals.grace)) a =
      decide (a.status d.removals.grace (cs ++ [c]) ≠ .waiting) := by
    intro a ha
    rw [decide_not, ← (touched_timer h c ha).1]
    rfl
  rw [List.filter_congr hends]
  refine List.map_congr_left fun a ha => ?_
  obtain ⟨ha, hs⟩ := List.mem_filter.mp ha
  rw [decide_eq_true_eq] at hs
  simp only [Function.comp_apply, (touched_timer h c ha).2.2, touch_name, touch_identity,
    touch_armedAt, Arming.timer_name, Arming.timer_identity, Arming.timer_armedAt, Arming.report]
  cases hst : a.status d.removals.grace (cs ++ [c]) with
  | waiting => exact absurd hst hs
  | cancelled => rfl
  | elapsed => rfl

/-! ### Every run keeps the ledger -/

theorem status_append {a : Arming} (ha : a ∈ d.armings 0 cs)
    (hs : a.status d.removals.grace cs ≠ .waiting) :
    a.status d.removals.grace (cs ++ [c]) = a.status d.removals.grace cs := by
  rw [Arming.status, later_append h c ha]
  exact TimerStatus.after_append hs [c]

/-- The timers that wait after the next command are among those that could end with it. -/
theorem waiting_next : ((d.armings 0 (cs ++ [c])).filter
      fun a => a.status d.removals.grace (cs ++ [c]) = .waiting) =
    (d.candidates cs c).filter fun a => a.status d.removals.grace (cs ++ [c]) = .waiting := by
  rw [armings_append_singleton, candidates, List.filter_append, List.filter_append,
    List.filter_filter]
  congr 1
  refine List.filter_congr fun a ha => ?_
  by_cases hs : a.status d.removals.grace cs = .waiting
  · simp [hs]
  · rw [status_append h c ha hs]
    simp [hs]

theorem elapsed_next (a : Arming) : a ∈ d.armings 0 (cs ++ [c]) ∧
      a.status d.removals.grace (cs ++ [c]) = .elapsed ↔
    a ∈ d.armings 0 cs ∧ a.status d.removals.grace cs = .elapsed ∨
      a ∈ d.candidates cs c ∧ a.status d.removals.grace (cs ++ [c]) = .elapsed := by
  rw [armings_append_singleton, candidates, List.mem_append, List.mem_append, List.mem_filter,
    decide_eq_true_eq]
  constructor
  · rintro ⟨ha | ha, he⟩
    · by_cases hs : a.status d.removals.grace cs = .waiting
      · exact .inr ⟨.inl ⟨ha, hs⟩, he⟩
      · exact .inl ⟨ha, status_append h c ha hs ▸ he⟩
    · exact .inr ⟨.inr ha, he⟩
  · rintro (⟨ha, he⟩ | ⟨⟨ha, -⟩ | ha, he⟩)
    · have hs : a.status d.removals.grace cs ≠ .waiting := by simp [he]
      exact ⟨.inl ha, (status_append h c ha hs).trans he⟩
    · exact ⟨.inl ha, he⟩
    · exact ⟨.inr ha, he⟩

/-- **The next command keeps the ledger.** -/
theorem step_ledger : Ledger d (cs ++ [c]) := by
  have hrun : (d.run (cs ++ [c])).1 = ((d.run cs).1.step c).1 := run_append d cs [c]
  have hnew : ∀ a ∈ d.armings 0 (cs ++ [c]),
      a ∈ d.armings 0 cs ∨ (d.run cs).1.arming? cs.length c = some a := by
    intro a ha
    rwa [armings_append_singleton, List.mem_append, Option.mem_toList] at ha
  constructor
  · rw [hrun, step_removals, perform_removals _ cs.length c]
    exact h.grace
  · intro a ha
    have hnow : (d.run (cs ++ [c])).1.removals.now = (d.run cs).1.removals.now + c.ms := by
      rw [hrun, step_removals, ← perform_now]
    rcases hnew a ha with ha | ha
    · rw [hnow, h.now a ha, later_append h c ha, elapsedMs_append, elapsedMs, elapsedMs]
      omega
    · obtain ⟨hp, ht, hms, -⟩ := of_arming? ha
      have hlater : a.later (cs ++ [c]) = [] := List.drop_eq_nil_of_le (by simp [hp])
      rw [hnow, hlater, ht, hms]
      rfl
  · intro a ha
    rw [List.length_append, List.length_singleton]
    rcases hnew a ha with ha | ha
    · have := h.place a ha
      omega
    · have := (of_arming? ha).1
      omega
  · rw [hrun, waiting_next h c, next_timers h c]
  · -- an item left before, or leaves now
    rw [hrun, next_items h c, h.items, List.filter_filter]
    refine List.filter_congr fun i _ => ?_
    rw [Bool.eq_iff_iff, Bool.and_eq_true, stays_iff, stays_iff, stays_iff]
    simp only [elapsed_next h c, or_imp, forall_and]
    exact and_comm

end Ledger

/-- **Every run keeps the ledger.** -/
theorem run_ledger {d : Desk} (h : d.removals.timers = []) (cs : List Command) : Ledger d cs := by
  induction cs using List.reverseRecOn with
  | nil => constructor <;> simp [armings, run, h]
  | append_singleton cs c ih => exact step_ledger ih c

/-! ### What has ended -/

theorem run_results (d : Desk) (cs : List Command) (c : Command) :
    (d.run (cs ++ [c])).2 = (d.run cs).2 ++ [((d.run cs).1.step c).2] := by
  induction cs generalizing d with
  | nil => rfl
  | cons c' cs ih => exact congrArg (_ :: ·) (ih (d.step c').1)

/-- The timers that ended in a run, and how. -/
def ended (d : Desk) (cs : List Command) : List (String × Identity × Nat × TimerStatus) :=
  ((d.run cs).2.flatMap Result.ends).map reportOf

/-- The timers that have ended after the next command are those that had, and those that end with
it. -/
theorem ended_next {d : Desk} {cs : List Command} (h : Ledger d cs) (c : Command) :
    ((d.armings 0 cs).filter (fun a => a.status d.removals.grace cs ≠ .waiting) ++
      (d.candidates cs c).filter fun a => a.status d.removals.grace (cs ++ [c]) ≠ .waiting).Perm
      ((d.armings 0 (cs ++ [c])).filter
        fun a => a.status d.removals.grace (cs ++ [c]) ≠ .waiting) := by
  rw [armings_append_singleton, candidates, List.filter_append, List.filter_append,
    ← List.append_assoc]
  refine List.Perm.append_right _ ?_
  have hsplit := List.filter_append_perm (fun a => a.status d.removals.grace cs ≠ .waiting)
    ((d.armings 0 cs).filter fun a => a.status d.removals.grace (cs ++ [c]) ≠ .waiting)
  have hended : ((d.armings 0 cs).filter
        fun a => a.status d.removals.grace (cs ++ [c]) ≠ .waiting).filter
          (fun a => a.status d.removals.grace cs ≠ .waiting) =
      (d.armings 0 cs).filter fun a => a.status d.removals.grace cs ≠ .waiting := by
    rw [List.filter_filter]
    refine List.filter_congr fun a ha => ?_
    by_cases hs : a.status d.removals.grace cs = .waiting
    · simp [hs]
    · rw [status_append h c ha hs]
      simp [hs]
  -- the others were waiting and end now: they are among the candidates
  rw [hended] at hsplit
  refine List.Perm.trans (List.Perm.append_left _ (List.Perm.of_eq ?_)) hsplit
  rw [List.filter_filter, List.filter_filter]
  exact List.filter_congr fun a _ => by simp [Bool.and_comm]

/-- **Every timer ends once**: the ends of a run are those of the timers that no longer wait. -/
theorem ended_perm {d : Desk} (h : d.removals.timers = []) (cs : List Command) :
    (d.ended cs).Perm
      (((d.armings 0 cs).filter fun a => a.status d.removals.grace cs ≠ .waiting).map
        (Arming.report d.removals.grace cs)) := by
  induction cs using List.reverseRecOn with
  | nil => simp [ended, armings, run]
  | append_singleton cs c ih =>
    have hl := run_ledger h cs
    have hends : d.ended (cs ++ [c]) =
        d.ended cs ++ ((d.run cs).1.step c).2.ends.map reportOf := by
      rw [ended, ended, run_results, List.flatMap_append, List.map_append]
      simp
    have hsame : ((d.armings 0 cs).filter fun a => a.status d.removals.grace cs ≠ .waiting).map
          (Arming.report d.removals.grace cs) =
        ((d.armings 0 cs).filter fun a => a.status d.removals.grace cs ≠ .waiting).map
          (Arming.report d.removals.grace (cs ++ [c])) := by
      refine List.map_congr_left fun a ha => ?_
      obtain ⟨ha, hs⟩ := List.mem_filter.mp ha
      rw [Arming.report, Arming.report, status_append hl c ha (by simpa using hs)]
    rw [hsame] at ih
    rw [hends, next_ends hl c]
    refine (ih.append_right _).trans ?_
    rw [← List.map_append]
    exact (ended_next hl c).map _

/-- **Removals after a grace.** The timers of a run are armed by deletions that are permitted and
answered with 200, one by each. An item leaves the list only when a timer for its identity has
elapsed, and then it does leave. A timer elapses when the grace goes by after it was armed and
before its name is cancelled; it is cancelled when a cancellation comes before; else it waits. Once
it has ended, it stays so in whatever follows, and it ends once. -/
theorem removals_graced {d : Desk} (h : d.removals.timers = []) (cs : List Command) :
    let grace := d.removals.grace
    let armings := d.armings 0 cs
    (∀ a, a ∈ armings ↔ ∃ before item action later,
      cs = before ++ .act item action a.name :: later ∧ before.length = a.place ∧
      (d.run before).1.removals.now = a.time ∧ action.deletes = true ∧
      d.session.permits item action = true ∧ (d.run before).1.takeReply.1 = .ok 200 ∧
      item.identity = a.identity) ∧
    armings.Pairwise (fun a b => a.place < b.place) ∧
    (d.run cs).1.removals.items = d.removals.items.filter (fun i =>
      armings.all fun a => !(a.status grace cs = .elapsed && a.identity = i.identity)) ∧
    (∀ a ∈ armings,
      (a.status grace cs = .elapsed ↔ ∃ before later, a.later cs = before ++ later ∧
        grace ≤ elapsedMs before ∧ ∀ c ∈ before, c.cancels a.name = false) ∧
      (a.status grace cs = .cancelled ↔ ∃ before c later, a.later cs = before ++ c :: later ∧
        elapsedMs before < grace ∧ c.cancels a.name = true) ∧
      (a.status grace cs = .waiting ↔
        elapsedMs (a.later cs) < grace ∧ ∀ c ∈ a.later cs, c.cancels a.name = false) ∧
      (a.status grace cs ≠ .waiting → ∀ more, a.status grace (cs ++ more) = a.status grace cs) ∧
      (grace ≤ elapsedMs (a.later cs) → (∀ c ∈ a.later cs, c.cancels a.name = false) →
        ∀ i ∈ (d.run cs).1.removals.items, i.identity ≠ a.identity)) ∧
    (d.ended cs).Perm ((armings.filter fun a => a.status grace cs ≠ .waiting).map
      (Arming.report grace cs)) := by
  intro grace armings
  have hl := run_ledger h cs
  refine ⟨fun a => mem_armings_iff, (armings_places d 0 cs).1, hl.items, fun a ha => ?_,
    ended_perm h cs⟩
  refine ⟨TimerStatus.after_eq_elapsed_iff, TimerStatus.after_eq_cancelled_iff,
    TimerStatus.after_eq_waiting_iff, fun hs more => ?_, fun hover hno i hi => ?_⟩
  · have hlater : a.later (cs ++ more) = a.later cs ++ more :=
      List.drop_append_of_le_length (hl.place a ha)
    rw [Arming.status, hlater]
    exact TimerStatus.after_append hs more
  · have helapsed : a.status grace cs = .elapsed :=
      TimerStatus.after_eq_elapsed_iff.mpr ⟨a.later cs, [], by simp, hover, hno⟩
    rw [hl.items, List.mem_filter, stays_iff] at hi
    exact (hi.2 a ⟨ha, helapsed⟩).symm

/-- Two listens are deleted, the second removal is cancelled, and the grace goes by: the first
listen leaves, and the second stays whatever comes next. -/
theorem removals_graced_of_cancelled :
    let listen (name : String) : Item := .listen
      { listenedAt := some 5
        userName := some "rob"
        track := { trackName := name, ids := { recordingMsid := some ("msid-" ++ name) } } }
    let d : Desk :=
      { session := .start "" (some ⟨"rob", "token"⟩)
        removals := { grace := 30, items := [listen "One", listen "Two"] } }
    let cs : List Command := [.act (listen "One") .deleteListen "a", .advance 10,
      .act (listen "Two") .deleteListen "b", .advance 10, .cancel "b", .advance 10]
    d.removals.timers = [] ∧ (d.run cs).1.removals.items = [listen "Two"] ∧
      ∃ a ∈ d.armings 0 cs, a.name = "b" ∧ a.time = 10 ∧
        ∀ more, a.status 30 (cs ++ more) = .cancelled := by
  intro listen d cs
  obtain ⟨-, -, hitems, htimers, -⟩ := removals_graced (d := d) rfl cs
  have hmem : ⟨2, 10, "b", (listen "Two").identity⟩ ∈ d.armings 0 cs := by decide
  refine ⟨rfl, hitems.trans (by decide), _, hmem, rfl, rfl, fun more => ?_⟩
  obtain ⟨-, hcancelled, -, hkept, -⟩ := htimers _ hmem
  have hs := hcancelled.mpr ⟨[.advance 10], .cancel "b", [.advance 10], rfl, by decide,
    by decide⟩
  rw [hkept (by simp [hs]) more, hs]

end Desk

end ListenDeck
