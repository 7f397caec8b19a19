import ListenDeck.Proofs.Actions.Gate
import Mathlib.Data.List.Basic

/-!
# How a timer ends

A timer for a delayed removal, told apart from all others by the command that armed it, and what
becomes of it in the commands that follow.

* `TimerStatus.after`: a timer waits until its grace is over or its name is cancelled, whichever
  comes first, and stays as it is from then on (`after_append`).
* `after_eq_elapsed_iff`, `after_eq_cancelled_iff`, `after_eq_waiting_iff`: what has to happen for
  each.
* `sweepTimers_ends`, `sweepTimers_items`: a sweep ends the timers that no longer wait, and takes
  the items of those whose grace is over.
-/

namespace ListenDeck

namespace Desk.Command

/-- The command cancels the timers of the name. -/
def cancels (name : String) : Command → Bool
  | .cancel n => n = name
  | _ => false

/-- How long the command takes, in milliseconds. -/
def ms : Command → Nat
  | .advance ms => ms
  | _ => 0

end Desk.Command

open Desk

/-- How long commands take, in milliseconds. -/
def Desk.elapsedMs : List Command → Nat
  | [] => 0
  | c :: cs => c.ms + elapsedMs cs

theorem Desk.elapsedMs_append (cs cs' : List Command) :
    elapsedMs (cs ++ cs') = elapsedMs cs + elapsedMs cs' := by
  induction cs with
  | nil => exact (Nat.zero_add _).symm
  | cons c cs ih =>
    rw [List.cons_append, elapsedMs, elapsedMs, ih]
    omega

/-- How far a timer got. -/
inductive TimerStatus where
  | waiting
  | cancelled
  | elapsed
  deriving DecidableEq, Repr

/-- How a timer ended. -/
def TimerEnd.status : TimerEnd → TimerStatus
  | .cancelled => .cancelled
  | .elapsed _ => .elapsed

namespace TimerStatus

/-- How far a timer got that has `left` milliseconds to wait, after the commands that follow. -/
def after (name : String) : Nat → List Command → TimerStatus
  | left, [] => if left = 0 then .elapsed else .waiting
  | left, c :: cs =>
    if left = 0 then .elapsed
    else if c.cancels name then .cancelled
    else after name (left - c.ms) cs

variable {name : String} {left : Nat}

theorem after_zero (cs : List Command) : after name 0 cs = .elapsed := by
  cases cs <;> exact if_pos rfl

theorem after_append {cs : List Command} (h : after name left cs ≠ .waiting)
    (more : List Command) : after name left (cs ++ more) = after name left cs := by
  induction cs generalizing left with
  | nil =>
    by_cases h0 : left = 0
    · rw [h0, after_zero, after_zero]
    · exact absurd (if_neg h0) h
  | cons c cs ih =>
    rw [List.cons_append, after, after] at *
    split_ifs at h ⊢ with h0 hc
    · rfl
    · rfl
    · exact ih h

/-- A timer that waits has not been cancelled, and its grace is not over. -/
theorem after_eq_waiting_iff {cs : List Command} : after name left cs = .waiting ↔
    elapsedMs cs < left ∧ ∀ c ∈ cs, c.cancels name = false := by
  induction cs generalizing left with
  | nil =>
    by_cases h0 : left = 0
    · simp [after, h0]
    · simp [after, h0, elapsedMs]; omega
  | cons c cs ih =>
    rw [after]
    split_ifs with h0 hc
    · simp [h0]
    · simp [hc]
    · rw [Bool.not_eq_true] at hc
      rw [ih]
      simp only [elapsedMs, List.forall_mem_cons, hc, true_and]
      refine and_congr_left fun _ => ?_
      omega

theorem after_append_singleton {cs : List Command} (h : after name left cs = .waiting)
    (c : Command) : after name left (cs ++ [c]) =
      if c.cancels name then .cancelled
      else if left ≤ elapsedMs cs + c.ms then .elapsed else .waiting := by
  induction cs generalizing left with
  | nil =>
    have h0 : left ≠ 0 := by
      rintro rfl
      simp [after] at h
    simp only [List.nil_append, after, if_neg h0, elapsedMs, Nat.zero_add,
      Nat.sub_eq_zero_iff_le]
  | cons c' cs ih =>
    rw [after] at h
    split_ifs at h with h0 hc
    rw [List.cons_append, after, if_neg h0, if_neg hc, ih h]
    have hiff : left - c'.ms ≤ elapsedMs cs + c.ms ↔ left ≤ elapsedMs (c' :: cs) + c.ms := by
      rw [elapsedMs]
      omega
    simp only [hiff]

/-- **A timer has elapsed** if the grace went by before any cancellation of its name. -/
theorem after_eq_elapsed_iff {cs : List Command} : after name left cs = .elapsed ↔
    ∃ before later, cs = before ++ later ∧ left ≤ elapsedMs before ∧
      ∀ c ∈ before, c.cancels name = false := by
  induction cs generalizing left with
  | nil =>
    constructor
    · intro h
      have h0 : left = 0 := by
        by_contra h0
        rw [after, if_neg h0] at h
        cases h
      exact ⟨[], [], rfl, by rw [h0]; exact Nat.zero_le _, by simp⟩
    · rintro ⟨before, later, hs, hle, -⟩
      obtain ⟨rfl, -⟩ := List.append_eq_nil_iff.mp hs.symm
      exact if_pos (Nat.le_zero.mp hle)
  | cons c cs ih =>
    rw [after]
    split_ifs with h0 hc
    · exact iff_of_true rfl ⟨[], _, rfl, by rw [h0]; exact Nat.zero_le _, by simp⟩
    · refine iff_of_false (by simp) ?_
      rintro ⟨before, later, hs, hle, hno⟩
      cases before with
      | nil => exact h0 (Nat.le_zero.mp hle)
      | cons c' before =>
        cases hs
        have := hno c (by simp)
        rw [hc] at this
        cases this
    · rw [Bool.not_eq_true] at hc
      rw [ih]
      constructor
      · rintro ⟨before, later, rfl, hle, hno⟩
        refine ⟨c :: before, later, rfl, ?_, List.forall_mem_cons.mpr ⟨hc, hno⟩⟩
        simp only [elapsedMs] at hle ⊢
        omega
      · rintro ⟨before, later, hs, hle, hno⟩
        cases before with
        | nil => exact absurd (Nat.le_zero.mp hle) h0
        | cons c' before =>
          cases hs
          refine ⟨before, later, rfl, ?_, (List.forall_mem_cons.mp hno).2⟩
          simp only [elapsedMs] at hle ⊢
          omega

/-- **A timer was cancelled** if a cancellation of its name came before the grace went by. -/
theorem after_eq_cancelled_iff {cs : List Command} : after name left cs = .cancelled ↔
    ∃ before c later, cs = before ++ c :: later ∧ elapsedMs before < left ∧
      c.cancels name = true := by
  induction cs generalizing left with
  | nil =>
    refine iff_of_false ?_ ?_
    · rw [after]; split_ifs <;> simp
    · rintro ⟨before, c, later, hs, -, -⟩
      simp at hs
  | cons c cs ih =>
    rw [after]
    split_ifs with h0 hc
    · refine iff_of_false (by simp) ?_
      rintro ⟨before, c', later, -, hlt, -⟩
      omega
    · exact iff_of_true rfl ⟨[], c, cs, rfl, Nat.pos_of_ne_zero h0, hc⟩
    · rw [ih]
      constructor
      · rintro ⟨before, c', later, rfl, hlt, hcan⟩
        refine ⟨c :: before, c', later, rfl, ?_, hcan⟩
        simp only [elapsedMs] at hlt ⊢
        omega
      · rintro ⟨before, c', later, hs, hlt, hcan⟩
        cases before with
        | nil =>
          cases hs
          exact absurd hcan hc
        | cons c'' before =>
          cases hs
          refine ⟨before, c', later, rfl, ?_, hcan⟩
          simp only [elapsedMs] at hlt ⊢
          omega

end TimerStatus

/-! ## Sweeps -/

namespace Removals

/-- The grace of the timer is over, and it was not cancelled. -/
def isOver (now : Nat) (t : RemovalTimer) : Bool := !t.cancelled && t.deadline ≤ now

/-- **A sweep ends the timers that no longer wait**, in the order in which they were armed. -/
theorem sweepTimers_ends (now : Nat) (timers : List RemovalTimer) (items : List Item) :
    (sweepTimers now timers items).1.map (fun e => (e.1, e.2.status)) =
      (timers.filter fun t => !waits now t).map fun t =>
        (t, if t.cancelled then .cancelled else .elapsed) := by
  induction timers generalizing items with
  | nil => rfl
  | cons t timers ih =>
    rw [sweepTimers]
    by_cases hc : t.cancelled = true
    · have hw : (!waits now t) = true := by simp [waits, hc]
      rw [if_pos hc, List.filter_cons, if_pos hw, List.map_cons, List.map_cons, ih, if_pos hc]
      rfl
    · rw [if_neg hc]
      by_cases hd : t.deadline ≤ now
      · have hw : (!waits now t) = true := by simp [waits, hd]
        rw [if_pos hd, List.filter_cons, if_pos hw, List.map_cons, List.map_cons, ih, if_neg hc]
        rfl
      · have hw : ¬ (!waits now t) = true := by simp [waits, hc]; omega
        rw [if_neg hd, List.filter_cons, if_neg hw, ih]

/-- **A sweep takes the items of the timers whose grace is over**, and no others. -/
theorem sweepTimers_items (now : Nat) (timers : List RemovalTimer) (items : List Item) :
    (sweepTimers now timers items).2 =
      items.filter fun i => timers.all fun t => !(isOver now t && t.identity = i.identity) := by
  induction timers generalizing items with
  | nil => simp [sweepTimers]
  | cons t timers ih =>
    rw [sweepTimers]
    by_cases hc : t.cancelled = true
    · rw [if_pos hc, ih]
      refine List.filter_congr fun i _ => ?_
      rw [List.all_cons]
      simp [isOver, hc]
    · rw [if_neg hc]
      by_cases hd : t.deadline ≤ now
      · rw [if_pos hd, ih, without, List.filter_filter]
        refine List.filter_congr fun i _ => ?_
        rw [List.all_cons, Bool.and_comm]
        simp [isOver, hc, hd, eq_comm]
      · rw [if_neg hd, ih]
        refine List.filter_congr fun i _ => ?_
        rw [List.all_cons]
        simp [isOver, hd]

end Removals

end ListenDeck
