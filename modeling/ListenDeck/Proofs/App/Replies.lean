import ListenDeck.Proofs.App.Requests
import Mathlib.Data.List.Induction

/-!
# Requests that wait

* `Reply.confirms`: the server carried a change out.
* `Live.step_waiting`: what waits after an event waited before, unless the event answered it, or the
  event sent it.
* `Live.sent_of_waiting`: what waits after a run was sent in it, or waited before.
-/

namespace ListenDeck

/-- The server says that it carried a change out. -/
def Reply.confirms : Reply → Bool
  | .lost => false
  | .answered status _ => status = statusOk

theorem confirmed_settle (m : Mutation) (r : Request) (reply : Reply) :
    confirmed ((Call.change m).settle r reply) = .ok () ↔ reply.confirms = true := by
  cases reply with
  | lost => exact iff_of_false (by rintro ⟨⟩) Bool.false_ne_true
  | answered status body =>
    simp only [Call.settle, Reply.confirms, decide_eq_true_eq]
    by_cases hs : status = statusOk
    · subst hs
      exact iff_of_true rfl rfl
    · refine iff_of_false (fun h => ?_) hs
      split_ifs at h
      · have hne : confirmed (.ok status) = .error (.unexpectedStatus status) := if_neg hs
        change confirmed (.ok status) = .ok () at h
        rw [hne] at h
        cases h
      · cases h

namespace Live

theorem step_waiting (l : Live) (e : Event) : ∀ q ∈ (l.step e).waiting,
    (q ∈ l.waiting ∧ ∀ number reply, e = .reply number reply → q.number ≠ number) ∨
      l.requests ≤ q.number := by
  have hsends : ∀ (kept : Live) (calls : List Pending) (q : Sent),
      q ∈ (dispatch maxCalls kept calls).waiting →
        q ∈ kept.waiting ∨ kept.requests ≤ q.number := by
    intro kept calls q hq
    obtain ⟨new, hnew⟩ := dispatch_sends followUp_true maxCalls kept calls fun _ _ => trivial
    rw [hnew.waiting, List.mem_append] at hq
    refine hq.imp_right fun hq => ?_
    have hnumber := List.mem_map_of_mem (f := (·.number)) hq
    rw [hnew.numbers, List.mem_range'_1] at hnumber
    exact hnumber.1
  intro q hq
  cases e with
  | act m => exact (hsends _ _ q hq).imp_left fun h => ⟨h, by rintro _ _ ⟨⟩⟩
  | reply number reply =>
    simp only [step, settle] at hq
    split at hq
    · next hnone =>
      refine .inl ⟨hq, ?_⟩
      rintro _ _ ⟨⟩
      simpa using List.find?_eq_none.mp hnone q hq
    · refine (hsends _ _ q hq).imp_left fun h => ?_
      obtain ⟨hmem, hne⟩ := List.mem_filter.mp h
      refine ⟨hmem, ?_⟩
      rintro _ _ ⟨⟩
      simpa using hne
  | pass ms => exact .inl ⟨hq, by rintro _ _ ⟨⟩⟩

theorem requests_le_step {l : Live} (hl : l.Numbered) (e : Event) :
    l.requests ≤ (l.step e).requests := by
  rw [(sent_spec followUp_true hl e fun _ _ _ _ => trivial).2.1]
  exact Nat.le_add_right _ _

/-- **What waits after a run** was sent by one of its events, or waited before. -/
theorem sent_of_waiting {l : Live} {es : List Event} : ∀ q ∈ (l.run es).waiting,
    q ∈ l.waiting ∨ ∃ before e after, es = before ++ e :: after ∧ q ∈ (l.run before).sent e := by
  intro q
  induction es using List.reverseRecOn with
  | nil => exact .inl
  | append_singleton es e ih =>
    intro hq
    have hrun : l.run (es ++ [e]) = (l.run es).step e := List.foldl_append
    rw [hrun] at hq
    rcases step_waiting (l.run es) e q hq with ⟨hold, -⟩ | hnew
    · rcases ih hold with hold | ⟨before, e', after, rfl, hsent⟩
      · exact .inl hold
      · exact .inr ⟨before, e', after ++ [e], by simp, hsent⟩
    · exact .inr ⟨es, e, [], rfl, List.mem_filter.mpr ⟨hq, by simpa using hnew⟩⟩

end Live

end ListenDeck
