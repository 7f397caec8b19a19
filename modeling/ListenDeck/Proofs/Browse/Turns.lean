import ListenDeck.Browse.Browser
import Mathlib.Data.List.Basic
import Mathlib.Order.Nat
import Mathlib.Tactic.Common

/-!
# The turns of a pager

What one request or one reply can do to a pager, said once.

* `PageState.Within`: the page is one of the pages there are; every change of state keeps this.
* `Pager.Asked`: a request for a page ends at once and changes nothing, or it issues a fetch of a
  page other than the one shown (`goTo_asked`, `older_asked`, `newer_asked`, `follow_asked`).
* `Pager.follow_eq_goTo`: following the address bar is asking for the page it names.
* `Pager.receive_late`, `Pager.receive_error`, `Pager.receive_opening`, `Pager.receive_page`: what a
  reply leads to.
* `Pager.Counted`: a turn issues a fetch exactly if its request waits afterwards (`open_counted`,
  `asked_counted`, `receive_counted`).
* `Pager.receive_within`, `Pager.asked_within`, `Pager.open_within`: the page stays within the pages
  there are.
-/

namespace ListenDeck

theorem pageCount_pos (total pageSize : Nat) : 1 ≤ pageCount total pageSize := by
  unfold pageCount maxPageNumber
  simp only [UInt32.size]
  omega

namespace PageState

/-- The page is one of the pages there are. -/
def Within (s : PageState) : Prop := 1 ≤ s.page ∧ s.page ≤ s.maxPage

theorem within_settle {s : PageState} (h : 1 ≤ s.maxPage) : s.settle.Within := by
  simp only [Within, settle]; omega

theorem settle_of_within {s : PageState} (h : s.Within) : s.settle = s := by
  obtain ⟨h1, h2⟩ := h
  have : max 1 (min s.page (max 1 s.maxPage)) = s.page := by omega
  simp only [settle, this]

end PageState

namespace Pager

@[simp] theorem withState_config (p : Pager) (s : PageState) :
    (p.withState s).config = p.config := rfl

@[simp] theorem withState_mounted (p : Pager) (s : PageState) :
    (p.withState s).mounted = p.mounted := rfl

@[simp] theorem withState_state (p : Pager) (s : PageState) :
    (p.withState s).state = s.settle := rfl

@[simp] theorem seeded_config (p : Pager) (total : Nat) (items : List Item) :
    (p.seeded total items).config = p.config := rfl

@[simp] theorem seeded_mounted (p : Pager) (total : Nat) (items : List Item) :
    (p.seeded total items).mounted = p.mounted := rfl

theorem seeded_within (p : Pager) (total : Nat) (items : List Item) :
    (p.seeded total items).state.Within :=
  PageState.within_settle (pageCount_pos total p.config.pageSize)

/-! ## Effects -/

/-- The effects write nothing into the address bar. -/
def Unwritten (effects : List PagerEffect) : Prop := ∀ page, .push page ∉ effects

/-- The effects ask the server for nothing. -/
def Unfetched (effects : List PagerEffect) : Prop :=
  ∀ user offset count, .fetch user offset count ∉ effects

theorem unwritten_observation (p : Pager) : Unwritten p.observation := by
  intro page h
  unfold observation at h
  split_ifs at h <;> simp at h

theorem unfetched_observation (p : Pager) : Unfetched p.observation := by
  intro user offset count h
  unfold observation at h
  split_ifs at h <;> simp at h

theorem unwritten_append {es fs : List PagerEffect} (he : Unwritten es) (hf : Unwritten fs) :
    Unwritten (es ++ fs) := by
  intro page h
  rcases List.mem_append.mp h with h | h
  · exact he page h
  · exact hf page h

/-! ## Requests -/

/-- Where the window of a fetch begins. -/
def startOf (p : Pager) : Aim → Nat
  | .opening => 0
  | .page target _ => p.offsetOf target

/-- **What a request for a page does**: it ends at once and changes nothing, or it issues a fetch of
a page other than the one shown, brought within the pages there are. -/
inductive Asked (p : Pager) (record : Bool) : Turn → Prop where
  | ended (o : Outcome) (h : o = .unchanged ∨ o = .discarded ∧ p.mounted = false) :
      Asked p record { pager := p, progress := .ended o }
  | fetched (n : Int) (hm : p.mounted = true) (hn : p.clampTarget n ≠ p.state.page) :
      Asked p record (p.fetch (.page (p.clampTarget n) record) (p.offsetOf (p.clampTarget n)))

theorem clampTarget_within (p : Pager) (h : 1 ≤ p.state.maxPage) (n : Int) :
    1 ≤ p.clampTarget n ∧ p.clampTarget n ≤ p.state.maxPage := by
  unfold clampTarget; omega

theorem clampTarget_self {p : Pager} (h : p.state.Within) :
    p.clampTarget p.state.page = p.state.page := by
  obtain ⟨h1, h2⟩ := h
  unfold clampTarget; omega

theorem goTo_asked (p : Pager) (n : Int) (record : Bool) : p.Asked record (p.goTo n record) := by
  unfold goTo
  by_cases hn : p.clampTarget n = p.state.page
  · simp only [hn, if_true]; exact .ended _ (Or.inl rfl)
  · simp only [hn, if_false]
    by_cases hm : p.mounted
    · rw [if_pos hm]; exact .fetched n hm hn
    · rw [if_neg hm]; exact .ended _ (Or.inr ⟨rfl, by simpa using hm⟩)

theorem older_asked (p : Pager) : p.Asked true p.older := by
  unfold older
  split_ifs
  · exact goTo_asked p _ _
  · exact .ended _ (Or.inl rfl)

theorem newer_asked (p : Pager) : p.Asked true p.newer := by
  unfold newer
  split_ifs
  · exact goTo_asked p _ _
  · exact .ended _ (Or.inl rfl)

/-- The page a parameter names; the first one if it names none. -/
def pageNamed (parameter : Option String) : Int := (readPage? parameter).elim 1 Int64.toInt

/-- **Following the address bar** is asking for the page it names, without a new entry. -/
theorem follow_eq_goTo {p : Pager} (h : p.state.Within) (parameter : Option String) :
    p.follow parameter = p.goTo (pageNamed parameter) false := by
  have hself := clampTarget_self h
  unfold follow pageNamed
  cases readPage? parameter with
  | none =>
    by_cases h1 : p.state.page = 1
    · have : p.clampTarget 1 = p.state.page := by rw [h1] at hself ⊢; exact hself
      simp [goTo, h1, this]
    · simp [h1]
  | some n =>
    by_cases h1 : n.toInt = p.state.page
    · simp [goTo, h1, hself]
    · simp [h1]

theorem follow_cases {p : Pager} (hm : p.mounted = true) (h : p.state.Within)
    (parameter : Option String) :
    (p.clampTarget (pageNamed parameter) = p.state.page ∧
      p.follow parameter = { pager := p, progress := .ended .unchanged }) ∨
    (p.clampTarget (pageNamed parameter) ≠ p.state.page ∧
      p.follow parameter = p.fetch (.page (p.clampTarget (pageNamed parameter)) false)
        (p.offsetOf (p.clampTarget (pageNamed parameter)))) := by
  rw [follow_eq_goTo h]
  unfold goTo
  by_cases hn : p.clampTarget (pageNamed parameter) = p.state.page
  · exact Or.inl ⟨hn, if_pos hn⟩
  · refine Or.inr ⟨hn, ?_⟩
    rw [if_neg hn, if_pos hm]

theorem follow_asked (p : Pager) (parameter : Option String) :
    p.Asked false (p.follow parameter) := by
  unfold follow
  split <;> split_ifs
  · exact .ended _ (Or.inl rfl)
  · exact goTo_asked p _ _
  · exact .ended _ (Or.inl rfl)
  · exact goTo_asked p _ _

/-! ## Fetches -/

section Fetch
variable (p : Pager) (aim : Aim) (offset : Nat)

@[simp] theorem fetch_progress :
    (p.fetch aim offset).progress = .waiting ⟨p.fetches + 1, aim⟩ := rfl

@[simp] theorem fetch_fetches : (p.fetch aim offset).pager.fetches = p.fetches + 1 := rfl

@[simp] theorem fetch_config : (p.fetch aim offset).pager.config = p.config := rfl

@[simp] theorem fetch_mounted : (p.fetch aim offset).pager.mounted = p.mounted := rfl

theorem fetch_state (h : p.state.Within) :
    (p.fetch aim offset).pager.state = { p.state with status := .loading } :=
  PageState.settle_of_within (s := { p.state with status := .loading }) h

theorem fetch_effects : (p.fetch aim offset).effects =
    (p.fetch aim offset).pager.observation ++
      [.fetch p.config.user offset p.config.pageSize] := rfl

theorem unwritten_fetch : Unwritten (p.fetch aim offset).effects := by
  rw [fetch_effects]
  exact unwritten_append (unwritten_observation _) fun page hp => by simp at hp

end Fetch

/-! ## Replies -/

theorem mounted_of_isCurrent {p : Pager} {ticket : Ticket} (h : p.isCurrent ticket = true) :
    p.mounted = true := by
  unfold isCurrent at h
  rw [Bool.and_eq_true] at h
  exact h.1

section Receive
variable (p : Pager) (parameter : Option String) {ticket : Ticket}

/-- **A late reply does nothing.** -/
theorem receive_late (h : p.isCurrent ticket = false) (reply : Except ServerError ItemPage) :
    p.receive parameter ticket reply = { pager := p, progress := .ended .discarded } := by
  unfold receive
  rw [if_neg (by simp [h])]

theorem receive_error (h : p.isCurrent ticket = true) (e : ServerError) :
    p.receive parameter ticket (.error e) = p.fail e := by
  unfold receive
  rw [if_pos h]

theorem receive_opening (h : p.isCurrent ticket = true) (ha : ticket.aim = .opening)
    (page : ItemPage) :
    p.receive parameter ticket (.ok page) = p.displayFirst parameter page := by
  unfold receive
  rw [if_pos h, ha]

theorem receive_page (h : p.isCurrent ticket = true) {target : Nat} {record : Bool}
    (ha : ticket.aim = .page target record) (page : ItemPage) :
    p.receive parameter ticket (.ok page) = p.display target record page := by
  unfold receive
  rw [if_pos h, ha]

/-- When the first page has come, the request ends with it if the address bar names it, or goes on
to the page that the address bar names. -/
theorem displayFirst_cases (hm : p.mounted = true) (page : ItemPage) {q : Pager}
    (hq : p.seeded page.total page.items = q) :
    (q.clampTarget (pageNamed parameter) = q.state.page ∧
      p.displayFirst parameter page =
        { pager := q, effects := q.observation, progress := .ended .loaded }) ∨
    (q.clampTarget (pageNamed parameter) ≠ q.state.page ∧
      p.displayFirst parameter page =
        (q.fetch (.page (q.clampTarget (pageNamed parameter)) false)
          (q.offsetOf (q.clampTarget (pageNamed parameter)))).after q.observation) := by
  have hwithin : q.state.Within := by rw [← hq]; exact seeded_within _ _ _
  have hmounted : q.mounted = true := by rw [← hq]; exact hm
  unfold displayFirst seed
  simp only [hq]
  rcases follow_cases hmounted hwithin parameter with ⟨hn, hf⟩ | ⟨hn, hf⟩ <;> rw [hf]
  · exact Or.inl ⟨hn, by simp [Turn.after]⟩
  · exact Or.inr ⟨hn, by simp [Turn.after]⟩

end Receive

theorem receive_not_discarded (p : Pager) (parameter : Option String) {ticket : Ticket}
    (h : p.isCurrent ticket = true) (reply : Except ServerError ItemPage) :
    (p.receive parameter ticket reply).progress ≠ .ended .discarded := by
  rcases reply with e | page
  · rw [receive_error p parameter h]; simp [fail]
  · cases ha : ticket.aim with
    | opening =>
      rw [receive_opening p parameter h ha]
      rcases displayFirst_cases p parameter (mounted_of_isCurrent h) page rfl with
        ⟨-, hd⟩ | ⟨-, hd⟩ <;> rw [hd]
      · simp
      · simp [Turn.after]
    | page target record =>
      rw [receive_page p parameter h ha]
      unfold display
      split_ifs <;> simp

/-! ## Counting fetches -/

/-- **A turn issues a fetch exactly if its request waits afterwards.** The fetch has the next number
and is the last effect; it asks for the page of its aim. -/
inductive Counted (p : Pager) (t : Turn) : Prop where
  | quiet (o : Outcome) (hp : t.progress = .ended o) (hf : t.pager.fetches = p.fetches)
      (hu : Unfetched t.effects)
  | fetched (aim : Aim) (es : List PagerEffect) (hp : t.progress = .waiting ⟨p.fetches + 1, aim⟩)
      (hf : t.pager.fetches = p.fetches + 1) (hu : Unfetched es)
      (he : t.effects = es ++ [.fetch p.config.user (p.startOf aim) p.config.pageSize])

theorem unfetched_nil : Unfetched [] := fun _ _ _ h => by simp at h

theorem unfetched_append {es fs : List PagerEffect} (he : Unfetched es) (hf : Unfetched fs) :
    Unfetched (es ++ fs) := by
  intro user offset count h
  rcases List.mem_append.mp h with h | h
  · exact he _ _ _ h
  · exact hf _ _ _ h

theorem open_counted (p : Pager) : p.Counted p.open := by
  unfold «open»
  split_ifs
  · exact .fetched .opening _ rfl rfl (unfetched_observation _) rfl
  · exact .quiet _ rfl rfl unfetched_nil

theorem asked_counted {p : Pager} {record : Bool} {t : Turn} (h : p.Asked record t) :
    p.Counted t := by
  cases h with
  | ended o _ => exact .quiet o rfl rfl unfetched_nil
  | fetched n _ _ => exact .fetched (.page _ record) _ rfl rfl (unfetched_observation _) rfl

theorem display_counted (p : Pager) (target : Nat) (record : Bool) (page : ItemPage) :
    p.Counted (p.display target record page) := by
  unfold display
  split_ifs
  · exact .quiet _ rfl rfl (unfetched_observation _)
  · exact .quiet _ rfl rfl (unfetched_append (unfetched_observation _) fun _ _ _ h => by simp at h)
  · exact .quiet _ rfl rfl (unfetched_append (unfetched_observation _) unfetched_nil)

theorem after_fetch_counted (p q : Pager) (hc : q.config = p.config)
    (hf : q.fetches = p.fetches) {es : List PagerEffect} (he : Unfetched es) (target : Nat)
    (record : Bool) :
    p.Counted ((q.fetch (.page target record) (q.offsetOf target)).after es) := by
  refine .fetched (.page target record)
    (es ++ (q.fetch (.page target record) (q.offsetOf target)).pager.observation) ?_ ?_
    (unfetched_append he (unfetched_observation _)) ?_
  · rw [Turn.after, fetch_progress, hf]
  · rw [Turn.after, fetch_fetches, hf]
  · rw [Turn.after, fetch_effects, List.append_assoc, startOf, offsetOf, offsetOf, hc]

theorem receive_counted (p : Pager) (parameter : Option String) (ticket : Ticket)
    (reply : Except ServerError ItemPage) : p.Counted (p.receive parameter ticket reply) := by
  by_cases hc : p.isCurrent ticket = true
  · rcases reply with e | page
    · rw [receive_error p parameter hc]
      refine .quiet _ rfl rfl fun user offset count h => ?_
      rcases List.mem_cons.mp h with h | h
      · simp at h
      · exact unfetched_observation _ _ _ _ h
    · cases ha : ticket.aim with
      | opening =>
        rw [receive_opening p parameter hc ha]
        rcases displayFirst_cases p parameter (mounted_of_isCurrent hc) page rfl with
          ⟨-, h⟩ | ⟨-, h⟩ <;> rw [h]
        · exact .quiet _ rfl rfl (unfetched_observation _)
        · exact after_fetch_counted p (p.seeded _ _) rfl rfl (unfetched_observation _) _ _
      | page target record =>
        rw [receive_page p parameter hc ha]
        exact display_counted p target record page
  · rw [receive_late p parameter (by simpa using hc)]
    exact .quiet _ rfl rfl unfetched_nil

/-! ## What no turn changes -/

/-- The turn leaves the configuration as it is, and the pager open or closed as it was. -/
structure Kept (p : Pager) (t : Turn) : Prop where
  config : t.pager.config = p.config
  mounted : t.pager.mounted = p.mounted

theorem open_kept (p : Pager) : p.Kept p.open := by
  unfold «open»
  split_ifs <;> exact ⟨rfl, rfl⟩

theorem asked_kept {p : Pager} {record : Bool} {t : Turn} (h : p.Asked record t) : p.Kept t := by
  cases h <;> exact ⟨rfl, rfl⟩

theorem display_kept (p : Pager) (target : Nat) (record : Bool) (page : ItemPage) :
    p.Kept (p.display target record page) := by
  unfold display
  split_ifs <;> exact ⟨withState_config _ _, withState_mounted _ _⟩

theorem receive_kept (p : Pager) (parameter : Option String) (ticket : Ticket)
    (reply : Except ServerError ItemPage) : p.Kept (p.receive parameter ticket reply) := by
  by_cases hc : p.isCurrent ticket = true
  · rcases reply with e | page
    · rw [receive_error p parameter hc]; exact ⟨rfl, rfl⟩
    · cases ha : ticket.aim with
      | opening =>
        rw [receive_opening p parameter hc ha]
        rcases displayFirst_cases p parameter (mounted_of_isCurrent hc) page rfl with
          ⟨-, h⟩ | ⟨-, h⟩ <;> rw [h]
        · exact ⟨seeded_config _ _ _, seeded_mounted _ _ _⟩
        · refine ⟨?_, ?_⟩
          · rw [Turn.after, fetch_config, seeded_config]
          · rw [Turn.after, fetch_mounted, seeded_mounted]
      | page target record =>
        rw [receive_page p parameter hc ha]
        exact display_kept p target record page
  · rw [receive_late p parameter (by simpa using hc)]
    exact ⟨rfl, rfl⟩

/-! ## The page stays within the pages there are -/

theorem open_within {p : Pager} (h : p.state.Within) : p.open.pager.state.Within := by
  unfold «open»
  split_ifs
  · rw [fetch_state _ _ _ h]; exact h
  · exact h

theorem asked_within {p : Pager} (h : p.state.Within) {record : Bool} {t : Turn}
    (ht : p.Asked record t) : t.pager.state.Within := by
  cases ht with
  | ended o _ => exact h
  | fetched n _ _ => rw [fetch_state _ _ _ h]; exact h

theorem display_within {p : Pager} (h : p.state.Within) (target : Nat) (record : Bool)
    (page : ItemPage) : (p.display target record page).pager.state.Within := by
  have hpos : 1 ≤ max target (pageCount page.total p.config.pageSize) :=
    (pageCount_pos _ _).trans (le_max_right _ _)
  unfold display
  split_ifs
  · exact PageState.within_settle (h.1.trans h.2)
  · exact PageState.within_settle hpos
  · exact PageState.within_settle hpos

theorem receive_within {p : Pager} (h : p.state.Within) (parameter : Option String)
    (ticket : Ticket) (reply : Except ServerError ItemPage) :
    (p.receive parameter ticket reply).pager.state.Within := by
  by_cases hc : p.isCurrent ticket = true
  · rcases reply with e | page
    · rw [receive_error p parameter hc]
      exact PageState.within_settle (h.1.trans h.2)
    · cases ha : ticket.aim with
      | opening =>
        have hq := seeded_within p page.total page.items
        rw [receive_opening p parameter hc ha]
        rcases displayFirst_cases p parameter (mounted_of_isCurrent hc) page rfl with
          ⟨-, hd⟩ | ⟨-, hd⟩ <;> rw [hd]
        · exact hq
        · rw [Turn.after, fetch_state _ _ _ hq]; exact hq
      | page target record =>
        rw [receive_page p parameter hc ha]
        exact display_within h target record page
  · rw [receive_late p parameter (by simpa using hc)]
    exact h

end Pager

end ListenDeck
