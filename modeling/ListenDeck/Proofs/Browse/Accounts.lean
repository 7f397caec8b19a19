import ListenDeck.Proofs.Browse.Turns

/-!
# What every outcome does

The notices a turn of a pager raises and the entries it makes in the address bar.

* `PagerEffect.pushes`, `PagerEffect.notices`: the entries and the notices among effects.
* `Pager.Accounted`: what a turn of a request does, by how far the request got. A failure raises one
  notice, a page that was loaded makes the entry its request is to make, nothing else does either,
  and neither a failure nor an empty page changes more than the status. Every request and every
  reply leads to such a turn (`goTo_accounted`, `receive_accounted` and the others).
* `Pager.receive_waits`: a request goes on after a reply only when it has shown the first page.
-/

namespace ListenDeck

namespace PagerEffect

/-- The page of a new entry in the address bar. -/
def pushed? : PagerEffect → Option Nat
  | .push page => some page
  | _ => none

/-- What the user is told. -/
def notice? : PagerEffect → Option Notice
  | .notify notice => some notice
  | _ => none

/-- The new entries in the address bar, in order. -/
def pushes (effects : List PagerEffect) : List Nat := effects.filterMap pushed?

/-- The notices, in order. -/
def notices (effects : List PagerEffect) : List Notice := effects.filterMap notice?

theorem pushes_append (es fs : List PagerEffect) : pushes (es ++ fs) = pushes es ++ pushes fs :=
  List.filterMap_append

theorem notices_append (es fs : List PagerEffect) : notices (es ++ fs) = notices es ++ notices fs :=
  List.filterMap_append

end PagerEffect

open PagerEffect

/-- The page of the entry that a fetch is to make in the address bar. -/
def Aim.target? : Aim → Option Nat
  | .page target true => some target
  | _ => none

namespace Pager

theorem pushes_observation (p : Pager) : pushes p.observation = [] := by
  unfold observation
  split_ifs <;> rfl

theorem notices_observation (p : Pager) : notices p.observation = [] := by
  unfold observation
  split_ifs <;> rfl

/-! ## Turns -/

/-- The pagers show the same page; their status may differ. -/
def SamePage (p q : Pager) : Prop :=
  q.state.page = p.state.page ∧ q.state.maxPage = p.state.maxPage ∧ q.state.items = p.state.items

theorem withStatus_samePage {p : Pager} (h : p.state.Within) (status : PageStatus) :
    p.SamePage (p.withState { p.state with status }) := by
  have hs : ({ p.state with status } : PageState).settle = { p.state with status } :=
    PageState.settle_of_within h
  rw [SamePage, withState_state, hs]
  exact ⟨rfl, rfl, rfl⟩

/-- **What a turn does, by how far its request got.** The request is to make an entry for the page
`target`; it is made now, or the reply to its fetch has come. -/
inductive Accounted (p : Pager) (target : Option Nat)
    (reply : Option (Except ServerError ItemPage)) (t : Turn) : Prop where
  | idle (o : Outcome) (ho : o = .unchanged ∨ o = .discarded)
      (ht : t = { pager := p, progress := .ended o })
  | waits (ticket : Ticket) (hp : t.progress = .waiting ticket) (ha : ticket.aim.target? = target)
      (hs : pushes t.effects = []) (hn : notices t.effects = [])
  | loaded (hp : t.progress = .ended .loaded) (hs : pushes t.effects = target.toList)
      (hn : notices t.effects = [])
  | empty (hr : reply ≠ none) (hp : t.progress = .ended .empty) (hs : pushes t.effects = [])
      (hn : notices t.effects = []) (hk : p.SamePage t.pager)
  | failed (e : ServerError) (hr : reply = some (.error e)) (hp : t.progress = .ended .failed)
      (hs : pushes t.effects = []) (hn : notices t.effects = [p.failureNotice e])
      (hk : p.SamePage t.pager)

section Accounted
variable {p : Pager} {reply : Option (Except ServerError ItemPage)}

theorem Accounted.target_of_waiting {target : Option Nat} {t : Turn} {ticket : Ticket}
    (h : p.Accounted target reply t) (hp : t.progress = .waiting ticket) :
    ticket.aim.target? = target := by
  cases h with
  | waits ticket' hp' ha _ _ => rw [hp] at hp'; cases hp'; exact ha
  | idle o _ ht => rw [ht] at hp; cases hp
  | loaded hp' _ _ => rw [hp] at hp'; cases hp'
  | empty _ hp' _ _ _ => rw [hp] at hp'; cases hp'
  | failed _ _ hp' _ _ _ => rw [hp] at hp'; cases hp'

theorem Accounted.of_ended {target : Option Nat} {t : Turn} {o : Outcome}
    (h : p.Accounted target reply t) (hp : t.progress = .ended o) :
    (o = .unchanged ∨ o = .discarded) ∧ t = { pager := p, progress := .ended o } ∨ o = .loaded ∨
      (o = .empty ∨ o = .failed) ∧ reply ≠ none ∧ p.SamePage t.pager := by
  cases h with
  | idle o' ho ht =>
    rw [ht] at hp
    cases hp
    exact .inl ⟨ho, ht⟩
  | waits _ hp' _ _ _ => rw [hp] at hp'; cases hp'
  | loaded hp' _ _ => rw [hp] at hp'; cases hp'; exact .inr (.inl rfl)
  | empty hr hp' _ _ hk => rw [hp] at hp'; cases hp'; exact .inr (.inr ⟨.inl rfl, hr, hk⟩)
  | failed e hr hp' _ _ hk =>
    rw [hp] at hp'
    cases hp'
    exact .inr (.inr ⟨.inr rfl, by simp [hr], hk⟩)

theorem fetch_accounted (aim : Aim) (offset : Nat) :
    p.Accounted aim.target? reply (p.fetch aim offset) := by
  refine .waits _ rfl rfl ?_ ?_
  · rw [fetch_effects, pushes_append, pushes_observation]; rfl
  · rw [fetch_effects, notices_append, notices_observation]; rfl

theorem open_accounted : p.Accounted none reply p.open := by
  unfold «open»
  split_ifs
  · exact fetch_accounted .opening 0
  · exact .idle _ (Or.inr rfl) rfl

theorem goTo_accounted (n : Int) (record : Bool) :
    p.Accounted (Aim.page (p.clampTarget n) record).target? reply (p.goTo n record) := by
  unfold goTo
  by_cases hn : p.clampTarget n = p.state.page
  · exact .idle .unchanged (Or.inl rfl) (if_pos hn)
  · simp only [hn, if_false]
    split_ifs
    · exact fetch_accounted _ _
    · exact .idle _ (Or.inr rfl) rfl

theorem older_accounted : p.Accounted (some (p.state.page + 1)) reply p.older := by
  unfold older
  split_ifs with h
  · have hlt : p.state.page < p.state.maxPage := by
      unfold PageState.canGoOlder at h
      simpa using (Bool.and_eq_true_iff.mp h).2
    have hc : p.clampTarget (p.state.page + 1) = p.state.page + 1 := by
      unfold clampTarget; omega
    rw [← hc]
    exact goTo_accounted (p.state.page + 1) true
  · exact .idle _ (Or.inl rfl) rfl

theorem newer_accounted (hw : p.state.Within) :
    p.Accounted (some (p.state.page - 1)) reply p.newer := by
  unfold newer
  split_ifs with h
  · have hlt : 1 < p.state.page := by
      unfold PageState.canGoNewer at h
      simpa using (Bool.and_eq_true_iff.mp h).2
    have hle := hw.2
    have hc : p.clampTarget (p.state.page - 1) = p.state.page - 1 := by
      unfold clampTarget; omega
    rw [← hc]
    exact goTo_accounted (p.state.page - 1) true
  · exact .idle _ (Or.inl rfl) rfl

theorem follow_accounted (hw : p.state.Within) (parameter : Option String) :
    p.Accounted none reply (p.follow parameter) := by
  rw [follow_eq_goTo hw]
  exact goTo_accounted _ false

theorem fail_accounted (hw : p.state.Within) (e : ServerError) (target : Option Nat) :
    p.Accounted target (some (.error e)) (p.fail e) := by
  refine .failed e rfl rfl ?_ ?_ (withStatus_samePage hw .failed)
  · exact pushes_observation _
  · exact congrArg (p.failureNotice e :: ·) (notices_observation _)

theorem display_accounted (hw : p.state.Within) (target : Nat) (record : Bool) (page : ItemPage) :
    p.Accounted (Aim.page target record).target? (some (.ok page))
      (p.display target record page) := by
  unfold display
  split_ifs with hi hr
  · exact .empty (by simp) rfl (pushes_observation _) (notices_observation _)
      (withStatus_samePage hw .idle)
  · subst hr
    refine .loaded rfl ?_ ?_
    · rw [pushes_append, pushes_observation]; rfl
    · rw [notices_append, notices_observation]; rfl
  · rw [Bool.not_eq_true] at hr
    subst hr
    refine .loaded rfl ?_ ?_
    · rw [pushes_append, pushes_observation]; rfl
    · rw [notices_append, notices_observation]; rfl

/-- The first page makes no entry, and neither does the page that the address bar asks for next. -/
theorem displayFirst_accounted (hm : p.mounted = true) (parameter : Option String)
    (page : ItemPage) : p.Accounted none reply (p.displayFirst parameter page) := by
  rcases displayFirst_cases p parameter hm page rfl with ⟨-, hd⟩ | ⟨-, hd⟩ <;> rw [hd]
  · exact .loaded rfl (pushes_observation _) (notices_observation _)
  · refine .waits _ rfl rfl ?_ ?_
    · rw [Turn.after, fetch_effects, pushes_append, pushes_append, pushes_observation,
        pushes_observation]
      rfl
    · rw [Turn.after, fetch_effects, notices_append, notices_append, notices_observation,
        notices_observation]
      rfl

theorem receive_accounted (hw : p.state.Within) (parameter : Option String) (ticket : Ticket)
    (reply : Except ServerError ItemPage) :
    p.Accounted ticket.aim.target? (some reply) (p.receive parameter ticket reply) := by
  by_cases hc : p.isCurrent ticket = true
  · rcases reply with e | page
    · rw [receive_error p parameter hc]
      exact fail_accounted hw e _
    · cases ha : ticket.aim with
      | opening =>
        rw [receive_opening p parameter hc ha]
        exact displayFirst_accounted (mounted_of_isCurrent hc) parameter page
      | page target record =>
        rw [receive_page p parameter hc ha]
        exact display_accounted hw target record page
  · rw [receive_late p parameter (by simpa using hc)]
    exact .idle _ (Or.inr rfl) rfl

end Accounted

/-- A request goes on after a reply only when the first page has come and another one is asked
for. -/
theorem receive_waits {p : Pager} {parameter : Option String} {ticket ticket' : Ticket}
    {reply : Except ServerError ItemPage}
    (h : (p.receive parameter ticket reply).progress = .waiting ticket') :
    ∃ page, reply = .ok page ∧ (p.receive parameter ticket reply).pager.state =
      { page := 1, maxPage := pageCount page.total p.config.pageSize
        items := page.items.take p.config.pageSize, status := .loading } := by
  by_cases hc : p.isCurrent ticket = true
  · rcases reply with e | page
    · rw [receive_error p parameter hc] at h; cases h
    · refine ⟨page, rfl, ?_⟩
      cases ha : ticket.aim with
      | opening =>
        rw [receive_opening p parameter hc ha] at h ⊢
        have hq := seeded_within p page.total page.items
        have hs : (p.seeded page.total page.items).state =
            { page := 1, maxPage := pageCount page.total p.config.pageSize
              items := page.items.take p.config.pageSize, status := .idle } :=
          PageState.settle_of_within ⟨Nat.le_refl _, pageCount_pos _ _⟩
        rcases displayFirst_cases p parameter (mounted_of_isCurrent hc) page rfl with
          ⟨-, hd⟩ | ⟨-, hd⟩
        · rw [hd] at h; cases h
        · rw [hd, Turn.after, fetch_state _ _ _ hq, hs]
      | page target record =>
        rw [receive_page p parameter hc ha] at h
        unfold display at h
        split_ifs at h
  · rw [receive_late p parameter (by simpa using hc)] at h
    cases h

end Pager

end ListenDeck
