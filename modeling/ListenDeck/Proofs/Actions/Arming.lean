import ListenDeck.Proofs.Actions.Fate
import Mathlib.Data.List.Induction

/-!
# The timers of a run

The timers that a run at a desk of actions arms.

* `Desk.Arming`: a timer, told apart by the place of the command that armed it.
* `Desk.armings`: the timers of a run, in order (`armings_places`).
* `Desk.mem_armings_iff`: a timer is armed by a deletion that is permitted and carried out.
* `Desk.perform_removals`: what any command does to the timers.
-/

namespace ListenDeck

/-- The action deletes its item. -/
def Action.deletes : Action → Bool
  | .deleteListen => true
  | .deletePin _ => true
  | .removeTrack .. => true
  | _ => false

namespace Desk

/-- A timer that was armed, by the place of its command among all commands. -/
structure Arming where
  place : Nat
  /-- The moment it was armed. -/
  time : Nat
  name : String
  identity : Identity
  deriving DecidableEq, Repr

namespace Arming

/-- The timer as it waits. -/
def timer (grace : Nat) (a : Arming) : RemovalTimer :=
  { name := a.name, identity := a.identity, armedAt := a.time, deadline := a.time + grace }

@[simp] theorem timer_name (grace : Nat) (a : Arming) : (a.timer grace).name = a.name := rfl

@[simp] theorem timer_identity (grace : Nat) (a : Arming) :
    (a.timer grace).identity = a.identity := rfl

@[simp] theorem timer_armedAt (grace : Nat) (a : Arming) : (a.timer grace).armedAt = a.time := rfl

/-- The commands after the one that armed the timer. -/
def later (cs : List Command) (a : Arming) : List Command := cs.drop (a.place + 1)

/-- How far the timer got. -/
def status (grace : Nat) (cs : List Command) (a : Arming) : TimerStatus :=
  .after a.name grace (a.later cs)

end Arming

/-- The timer a command arms. -/
def arming? (d : Desk) (place : Nat) (c : Command) : Option Arming :=
  match c, (d.perform c).2.settlement with
  | .act _ _ name, some (.armed identity) =>
    some { place, time := d.removals.now, name, identity }
  | _, _ => none

/-- The timers that commands arm, in order; the first command stands at `place`. -/
def armings : Desk → Nat → List Command → List Arming
  | _, _, [] => []
  | d, place, c :: cs => (d.arming? place c).toList ++ armings (d.step c).1 (place + 1) cs

/-! ## Runs -/

theorem run_append (d : Desk) (cs more : List Command) :
    (d.run (cs ++ more)).1 = ((d.run cs).1.run more).1 := by
  induction cs generalizing d with
  | nil => rfl
  | cons c cs ih => exact ih (d.step c).1

theorem armings_append (d : Desk) (place : Nat) (cs more : List Command) :
    d.armings place (cs ++ more) =
      d.armings place cs ++ (d.run cs).1.armings (place + cs.length) more := by
  induction cs generalizing d place with
  | nil => rfl
  | cons c cs ih =>
    have hlen : place + (c :: cs).length = place + 1 + cs.length := by
      rw [List.length_cons]; omega
    rw [List.cons_append, armings, armings, ih, List.append_assoc, hlen]
    rfl

theorem armings_append_singleton (d : Desk) (cs : List Command) (c : Command) :
    d.armings 0 (cs ++ [c]) = d.armings 0 cs ++ ((d.run cs).1.arming? cs.length c).toList := by
  rw [armings_append, Nat.zero_add, armings, armings, List.append_nil]

theorem mem_armings {d : Desk} {place : Nat} {cs : List Command} {a : Arming} :
    a ∈ d.armings place cs ↔ ∃ before c later, cs = before ++ c :: later ∧
      (d.run before).1.arming? (place + before.length) c = some a := by
  induction cs using List.reverseRecOn with
  | nil => simp [armings]
  | append_singleton cs c ih =>
    rw [armings_append, List.mem_append, ih]
    constructor
    · rintro (⟨before, c', later, rfl, h⟩ | h)
      · exact ⟨before, c', later ++ [c], by simp, h⟩
      · exact ⟨cs, c, [], rfl, by simpa [armings] using h⟩
    · rintro ⟨before, c', later, hs, h⟩
      rcases List.eq_nil_or_concat later with rfl | ⟨later, c'', rfl⟩
      · obtain ⟨rfl, hc⟩ := List.append_inj' hs rfl
        cases hc
        exact .inr (by simpa [armings] using h)
      · rw [List.concat_eq_append, ← List.cons_append, ← List.append_assoc] at hs
        obtain ⟨rfl, -⟩ := List.append_inj' hs rfl
        exact .inl ⟨before, c', later, rfl, h⟩

theorem step_session (d : Desk) (c : Command) : (d.step c).1.session = d.session := by
  show (d.perform c).1.session = d.session
  cases c with
  | act item action name =>
    cases hp : d.session.plan item action with
    | none => simp [perform, hp]
    | some m =>
      rw [perform_act_of_plan hp]
      exact takeReply_session d
  | _ => rfl

theorem run_session (d : Desk) (cs : List Command) : (d.run cs).1.session = d.session := by
  induction cs generalizing d with
  | nil => rfl
  | cons c cs ih => exact (ih (d.step c).1).trans (step_session d c)

/-! ## What a command does -/

/-- A timer when a command has come. -/
def touch (c : Command) (t : RemovalTimer) : RemovalTimer :=
  if c.cancels t.name then { t with cancelled := true } else t

theorem touch_of_not {c : Command} {t : RemovalTimer} (h : c.cancels t.name = false) :
    touch c t = t := if_neg (by simp [h])

@[simp] theorem touch_name (c : Command) (t : RemovalTimer) : (touch c t).name = t.name := by
  unfold touch
  split_ifs <;> rfl

@[simp] theorem touch_identity (c : Command) (t : RemovalTimer) :
    (touch c t).identity = t.identity := by
  unfold touch
  split_ifs <;> rfl

@[simp] theorem touch_armedAt (c : Command) (t : RemovalTimer) :
    (touch c t).armedAt = t.armedAt := by
  unfold touch
  split_ifs <;> rfl

/-- **What a command does to the removals** before the timers are looked at. -/
theorem perform_removals (d : Desk) (place : Nat) (c : Command) : (d.perform c).1.removals =
    { now := d.removals.now + c.ms
      grace := d.removals.grace
      timers := (d.removals.timers ++
        (d.arming? place c).toList.map (Arming.timer d.removals.grace)).map (touch c)
      items := d.removals.items } := by
  cases c with
  | reply r =>
    have ht : touch (.reply r) = id := funext fun t => touch_of_not rfl
    simp [perform, arming?, ht, Command.ms]
  | act item action name =>
    have ht : touch (.act item action name) = id := funext fun t => touch_of_not rfl
    have hms : (Command.act item action name).ms = 0 := rfl
    rw [ht, List.map_id, hms, Nat.add_zero]
    cases hp : d.session.plan item action with
    | none => simp [perform, arming?, hp]
    | some m =>
      simp only [arming?, perform_act_of_plan hp]
      cases settle item m d.takeReply.1 <;>
        simp [armedBy, Removals.arm, Arming.timer]
  | cancel name =>
    have ht : touch (.cancel name) =
        fun t => if t.name = name then { t with cancelled := true } else t := by
      funext t
      simp [touch, Command.cancels, eq_comm]
    simp [perform, arming?, ht, Command.ms, Removals.cancel]
  | advance ms =>
    have ht : touch (.advance ms) = id := funext fun t => touch_of_not rfl
    simp [perform, arming?, ht, Command.ms, Removals.advance]

theorem of_arming? {d : Desk} {place : Nat} {c : Command} {a : Arming}
    (h : d.arming? place c = some a) :
    a.place = place ∧ a.time = d.removals.now ∧ c.ms = 0 ∧ ∀ name, c.cancels name = false := by
  unfold arming? at h
  split at h
  · cases h
    exact ⟨rfl, rfl, rfl, fun _ => rfl⟩
  · cases h

theorem step_removals (d : Desk) (c : Command) :
    let r := (d.perform c).1.removals
    (d.step c).1.removals = { r with
      timers := r.timers.filter (Removals.waits r.now)
      items := (Removals.sweepTimers r.now r.timers r.items).2 } := rfl

theorem step_ends (d : Desk) (c : Command) :
    let r := (d.perform c).1.removals
    (d.step c).2.ends = (Removals.sweepTimers r.now r.timers r.items).1 := rfl

/-! ## What arms a timer -/

/-- The actions that delete, and no others, arm a timer when they are carried out. -/
theorem armed_of_carries {s : Session} {item : Item} {action : Action} {m : Mutation}
    {success : Settlement} (h : s.Carries item action m success) (identity : Identity) :
    success = .armed identity ↔ action.deletes = true ∧ item.identity = identity := by
  cases h <;> simp [Action.deletes]

theorem settlement_of_act (d : Desk) (item : Item) (action : Action) (name : String)
    (identity : Identity) :
    (d.perform (.act item action name)).2.settlement = some (.armed identity) ↔
      action.deletes = true ∧ d.session.permits item action = true ∧
        d.takeReply.1 = .ok 200 ∧ item.identity = identity := by
  by_cases hp : d.session.permits item action = true
  · obtain ⟨m, success, hplan, -, hc⟩ := Session.plan_of_permits hp
    rw [perform_act_of_plan hplan]
    by_cases hr : d.takeReply.1 = .ok 200
    · simp only [hr, settle_done hc, Option.some.injEq, armed_of_carries hc, hp, true_and]
    · obtain ⟨e, -, hs⟩ := settle_refused item m hr
      simp [hs, hr]
  · rw [Bool.not_eq_true] at hp
    simp [perform, Session.plan_eq_none hp, hp]

theorem arming?_eq_some_iff {d : Desk} {place : Nat} {c : Command} {a : Arming} :
    d.arming? place c = some a ↔
      ∃ item action, c = .act item action a.name ∧ place = a.place ∧ d.removals.now = a.time ∧
        action.deletes = true ∧ d.session.permits item action = true ∧
        d.takeReply.1 = .ok 200 ∧ item.identity = a.identity := by
  constructor
  · intro h
    unfold arming? at h
    split at h
    · rename_i item action name identity hs
      cases h
      exact ⟨item, action, rfl, rfl, rfl, (settlement_of_act d item action name identity).mp hs⟩
    · cases h
  · rintro ⟨item, action, rfl, rfl, ht, hs⟩
    rw [← settlement_of_act d item action a.name] at hs
    simp only [arming?, hs, ht]

/-- **The timers of a run are armed by deletions alone**: by those that are permitted, when the
server answers with 200. -/
theorem mem_armings_iff {d : Desk} {cs : List Command} {a : Arming} :
    a ∈ d.armings 0 cs ↔ ∃ before item action later,
      cs = before ++ .act item action a.name :: later ∧ before.length = a.place ∧
      (d.run before).1.removals.now = a.time ∧ action.deletes = true ∧
      d.session.permits item action = true ∧ (d.run before).1.takeReply.1 = .ok 200 ∧
      item.identity = a.identity := by
  simp only [mem_armings, arming?_eq_some_iff, run_session, Nat.zero_add]
  constructor
  · rintro ⟨before, c, later, rfl, item, action, rfl, h⟩
    exact ⟨before, item, action, later, rfl, h⟩
  · rintro ⟨before, item, action, later, rfl, h⟩
    exact ⟨before, _, later, rfl, item, action, rfl, h⟩

theorem armings_places (d : Desk) (place : Nat) (cs : List Command) :
    (d.armings place cs).Pairwise (fun a b => a.place < b.place) ∧
      ∀ a ∈ d.armings place cs, place ≤ a.place := by
  induction cs generalizing d place with
  | nil => simp [armings]
  | cons c cs ih =>
    obtain ⟨hpair, hle⟩ := ih (d.step c).1 (place + 1)
    rw [armings]
    cases hc : d.arming? place c with
    | none =>
      rw [Option.toList_none, List.nil_append]
      exact ⟨hpair, fun a ha => by have := hle a ha; omega⟩
    | some a =>
      have hp := (of_arming? hc).1
      rw [Option.toList_some, List.singleton_append, List.pairwise_cons]
      refine ⟨⟨fun b hb => ?_, hpair⟩, fun b hb => ?_⟩
      · have := hle b hb
        omega
      · rcases List.mem_cons.mp hb with rfl | hb
        · omega
        · have := hle b hb
          omega

end Desk

end ListenDeck
