import ListenDeck.Proofs.Browse.Limits
import ListenDeck.Proofs.Browse.Naming

/-!
# Following the address bar

To follow the address bar is to ask for the page it names, without a new entry, whatever is written
there and whatever has happened before.

* `Pager.follow_unchanged`: on the page that the address bar names there is nothing to follow.
* `Pager.receive_loaded`: what has come when a page is loaded.
* `Browser.step_follow_loaded`: a page that was just loaded, with an entry of its own, is the one
  that the address bar names.
* `Browser.follow_is_goTo`: the rule for every run of a new browser.
-/

namespace ListenDeck

namespace Pager

theorem follow_unchanged {p : Pager} (h : p.state.Within) {parameter : Option String}
    (hn : pageNamed parameter = p.state.page) :
    p.follow parameter = { pager := p, progress := .ended .unchanged } := by
  have hself : p.clampTarget p.state.page = p.state.page := clampTarget_self h
  rw [follow_eq_goTo h, hn]
  unfold goTo
  rw [hself]
  exact if_pos rfl

/-- **What has come when a page is loaded**: a reply with items, and it is displayed. -/
theorem receive_loaded {p : Pager} {parameter : Option String} {ticket : Ticket} {target : Nat}
    {record : Bool} (ha : ticket.aim = .page target record)
    {reply : Except ServerError ItemPage}
    (hl : (p.receive parameter ticket reply).progress = .ended .loaded) :
    ∃ page : ItemPage, page.items.isEmpty = false ∧
      p.receive parameter ticket reply = p.display target record page := by
  by_cases hc : p.isCurrent ticket = true
  · rcases reply with e | page
    · rw [receive_error p parameter hc] at hl
      cases hl
    · rw [receive_page p parameter hc ha] at hl ⊢
      refine ⟨page, ?_, rfl⟩
      by_cases hempty : page.items.isEmpty = true
      · unfold display at hl
        rw [if_pos hempty] at hl
        cases hl
      · simpa using hempty
  · rw [receive_late p parameter (by simpa using hc)] at hl
    cases hl

theorem display_recorded (p : Pager) {target : Nat} (h1 : 1 ≤ target) {page : ItemPage}
    (hitems : page.items.isEmpty = false) :
    (p.display target true page).pager.state.page = target ∧
      (p.display target true page).effects =
        (p.display target true page).pager.observation ++ [.push target] ∧
      (p.display target true page).progress = .ended .loaded := by
  have hne : ¬ page.items.isEmpty = true := by simp [hitems]
  unfold display
  rw [if_neg hne]
  refine ⟨?_, rfl, rfl⟩
  show max 1 (min target (max 1 (max target (pageCount page.total p.config.pageSize)))) = target
  omega

end Pager

namespace Browser

/-- **To follow the address bar** is to ask for the page it names. -/
theorem step_follow_eq {b : Browser} (h : b.pager.state.Within) :
    b.step .follow = b.step (.goTo (Pager.pageNamed b.pageText) false) := by
  show b.request (b.pager.follow b.pageText) =
    b.request (b.pager.goTo (Pager.pageNamed b.pageText) false)
  rw [Pager.follow_eq_goTo h]

theorem step_follow_unchanged {b : Browser} (h : b.pager.state.Within)
    (hn : Pager.pageNamed b.pageText = b.pager.state.page) :
    b.step .follow =
      ({ b with requests := b.requests + 1 }, [], .ended b.requests .unchanged) := by
  show b.request (b.pager.follow b.pageText) = _
  rw [Pager.follow_unchanged h hn]
  rfl

/-- **A page that was just loaded with an entry of its own** is the one that the address bar
names. -/
theorem step_follow_loaded {b : Browser} (hb : b.Fits) {request number target : Nat}
    (hw : b.waiting.lookup request = some ⟨number, .page target true⟩)
    {reply : Except ServerError ItemPage} {b' : Browser} {effects : List PagerEffect}
    (hl : b.step (.reply request reply) = (b', effects, .ended request .loaded)) :
    b'.step .follow =
      ({ b' with requests := b'.requests + 1 }, [], .ended b'.requests .unchanged) := by
  obtain ⟨h1, hmax⟩ := hb.tickets _ (mem_of_lookup hw) target true rfl
  have hwithin : b'.pager.state.Within := by
    have hstep := step_within hb.state.within (.reply request reply)
    rwa [hl] at hstep
  rw [step_reply_of_some hw] at hl
  have hprogress : (b.pager.receive b.pageText ⟨number, .page target true⟩ reply).progress =
      .ended .loaded := by
    have hanswer := congrArg (·.2.2) hl
    simp only [afterTurn] at hanswer
    split at hanswer
    next o ho =>
      rw [ho]
      simpa using hanswer
    next => cases hanswer
  obtain ⟨page, hitems, hreceive⟩ := Pager.receive_loaded rfl hprogress
  obtain ⟨hpage, heffects, hended⟩ := Pager.display_recorded b.pager h1 hitems
  rw [hreceive] at hl
  -- the observer is told first, and the new entry comes last
  have hquiet := foldl_applyEffect_of_unwritten
    { b with
      pager := (b.pager.display target true page).pager
      waiting := b.waiting.filter (·.1 ≠ request) }
    (Pager.unwritten_observation (b.pager.display target true page).pager)
  have hb' : b' = { b with
      pager := (b.pager.display target true page).pager
      bar := b.bar.push target
      typed := none
      waiting := b.waiting.filter (·.1 ≠ request) } := by
    have hfirst := congrArg Prod.fst hl
    simp only [afterTurn, hended, heffects, List.foldl_append, hquiet] at hfirst
    exact hfirst.symm
  have hnamed : Pager.pageNamed b'.pageText = b'.pager.state.page := by
    rw [hb']
    show Pager.pageNamed (b.bar.push target).pageText =
      (b.pager.display target true page).pager.state.page
    rw [Pager.pageNamed_push b.bar hmax, hpage]
  exact step_follow_unchanged hwithin hnamed

/-- **Following the address bar is a plain request for a page**, which makes no entry. In every
state that a new browser comes to, closed or not, and whatever is written in the address bar, to
follow it is to ask for the page that is read there, or for the first one if none is: the turns are
the same, with their effects, and so is everything after them. A page is read of exactly those texts
that name one. Right after a page asked for with an entry of its own was loaded, there is nothing to
follow. -/
theorem follow_is_goTo (config : PagerConfig) (observed : Bool) (bar : AddressBar)
    (events : List Event) :
    let b := ((fresh config observed bar).run events).1
    (∀ parameter, b.pager.follow parameter =
      b.pager.goTo ((readPage? parameter).elim 1 Int64.toInt) false) ∧
    (∀ parameter page, readPage? parameter = some page ↔ Names parameter page) ∧
    (∀ later, b.run (.follow :: later) =
      b.run (.goTo ((readPage? b.pageText).elim 1 Int64.toInt) false :: later)) ∧
    ∀ request number target, b.waiting.lookup request = some ⟨number, .page target true⟩ →
      ∀ reply b' effects, b.step (.reply request reply) = (b', effects, .ended request .loaded) →
        b'.step .follow =
          ({ b' with requests := b'.requests + 1 }, [], .ended b'.requests .unchanged) := by
  intro b
  have hfits : b.Fits := (run_fits (fresh_fits config observed bar) events).1
  have hwithin : b.pager.state.Within := hfits.state.within
  refine ⟨fun parameter => Pager.follow_eq_goTo hwithin parameter,
    fun parameter page => readPage?_eq_some_iff, fun later => ?_,
    fun request number target hw reply b' effects hl => step_follow_loaded hfits hw hl⟩
  have hstep := step_follow_eq hwithin
  simp only [run, hstep, Pager.pageNamed]

/-- Three pages of two pins are there; the second one is asked for with an entry of its own, and
comes. -/
theorem follow_is_goTo_of_second_page :
    let pins : List Item := [.pin { rowId := 3 }, .pin { rowId := 4 }]
    let b := ((fresh ⟨"rob", "pinned recordings", 2⟩ false (.start none)).run
      [.seed 6 [], .goTo 2 true]).1
    let reply := .reply 0 (.ok { items := pins, total := 6 })
    b.waiting.lookup 0 = some ⟨1, .page 2 true⟩ ∧
      (b.step reply).2.2 = .ended 0 .loaded ∧ (b.step reply).1.pageText = some "2" ∧
      ((b.step reply).1.step .follow).2 = ([], .ended 1 .unchanged) := by
  intro pins b reply
  have hw : b.waiting.lookup 0 = some ⟨1, .page 2 true⟩ := by decide +kernel
  have ho : (b.step reply).2.2 = .ended 0 .loaded := by decide +kernel
  have hl : b.step reply = ((b.step reply).1, (b.step reply).2.1, .ended 0 .loaded) := by
    rw [← ho]
  have hfollow := (follow_is_goTo ⟨"rob", "pinned recordings", 2⟩ false (.start none)
    [.seed 6 [], .goTo 2 true]).2.2.2 0 1 2 hw _ _ _ hl
  refine ⟨hw, ho, by decide +kernel, ?_⟩
  rw [hfollow]
  decide +kernel

end Browser

end ListenDeck
