import ListenDeck.Proofs.App.Asking
import ListenDeck.Proofs.Browse.Runs

/-!
# Every call is made

An event leads to one call at most, and a call that is settled without a request leads to none. So
the bound on the number of calls is never reached: what happens is what happens without a bound.

* `asks`: how many calls pages ask for.
* `App.calls_update`, `App.calls_receive`: the user, and a reply, lead to one call at most.
* `App.receive_unsent`: a call that was not sent leads to none.
* `Live.Made`: making calls without a bound.
* `Live.MakesAll`, `Live.step_makesAll`, `Live.start_made`: events and the start make all their
  calls.
-/

namespace ListenDeck

/-- The effect asks for a call. -/
def PageEffect.isAsk : PageEffect → Bool
  | .ask _ => true
  | _ => false

/-- How many calls effects ask for. -/
def asks (effects : List PageEffect) : Nat := effects.countP (·.isAsk)

theorem asks_le_length (effects : List PageEffect) : asks effects ≤ effects.length :=
  List.countP_le_length

theorem Told.asks {effects : List PageEffect} (h : Told effects) : ListenDeck.asks effects = 0 := by
  unfold ListenDeck.asks
  rw [List.countP_eq_zero]
  intro e he
  obtain ⟨notice, rfl⟩ := h e he
  exact Bool.false_ne_true

theorem Told.asks_le {effects : List PageEffect} (h : Told effects) :
    ListenDeck.asks effects ≤ 1 := h.asks.le.trans (Nat.zero_le 1)

/-! ## Pages -/

section Pages

theorem length_toList_le {α : Type} (o : Option α) : o.toList.length ≤ 1 := by
  cases o <;> simp

theorem Shelf.asks_act {κ : Type} (s : Shelf κ) (session : Session) (grace : Nat)
    (removal : Action) (serial : Nat) (m : CardMessage) :
    asks (s.act session grace removal serial m).2 ≤ 1 := by
  refine (asks_le_length _).trans ?_
  unfold Shelf.act
  split
  · exact Nat.zero_le 1
  · cases m with
    | pin => exact Nat.le_refl 1
    | _ => exact length_toList_le _

theorem Pager.Unfetched.countP {es : List PagerEffect} (h : Pager.Unfetched es) :
    es.countP PagerEffect.isFetch = 0 := by
  rw [List.countP_eq_zero]
  simpa using Pager.unfetched_iff.mp h

theorem Pager.fail_unfetched (p : Pager) (e : ServerError) :
    Pager.Unfetched (p.fail e).effects := by
  intro user offset count h
  rcases List.mem_cons.mp h with h | h
  · cases h
  · exact Pager.unfetched_observation _ user offset count h

theorem Pager.Counted.fetches_le {p : Pager} {t : Turn} (h : p.Counted t) :
    t.effects.countP PagerEffect.isFetch ≤ 1 := by
  cases h with
  | quiet o hp hf hu => exact hu.countP.le.trans (Nat.zero_le 1)
  | fetched aim es hp hf hu he =>
    rw [he, List.countP_append, hu.countP]
    exact Nat.le_refl 1

theorem Browser.step_issues_le (b : Browser) (e : Browser.Event) :
    (b.step e).2.1.countP PagerEffect.isFetch ≤ 1 := by
  have hturn : ∀ (b : Browser) (r : Nat) (t : Turn), b.pager.Counted t →
      (b.afterTurn r t).2.1.countP PagerEffect.isFetch ≤ 1 := by
    intro b r t ht
    rw [afterTurn_effects]
    exact ht.fetches_le
  have hquiet : ∀ {es}, Pager.Unfetched es → es.countP PagerEffect.isFetch ≤ 1 :=
    fun hes => hes.countP.le.trans (Nat.zero_le 1)
  cases e with
  | seed total items => exact hquiet (Pager.unfetched_observation _)
  | «open» => exact hturn _ _ _ (Pager.open_counted _)
  | goTo target record => exact hturn _ _ _ (Pager.asked_counted (Pager.goTo_asked _ _ _))
  | older => exact hturn _ _ _ (Pager.asked_counted (Pager.older_asked _))
  | newer => exact hturn _ _ _ (Pager.asked_counted (Pager.newer_asked _))
  | follow => exact hturn _ _ _ (Pager.asked_counted (Pager.follow_asked _ _))
  | remove identity =>
    simp only [step, Pager.remove]
    split
    · exact hquiet (Pager.unfetched_observation _)
    · exact Nat.zero_le 1
  | close => exact Nat.zero_le 1
  | move m => exact Nat.zero_le 1
  | type parameter => exact Nat.zero_le 1
  | reply r reply =>
    simp only [step]
    split
    · exact Nat.zero_le 1
    · exact hturn _ _ _ (Pager.receive_counted _ _ _ _)

theorem Browser.step_error_fetches (b : Browser) (r : Nat) (e : ServerError) :
    (b.step (.reply r (.error e))).2.1.countP PagerEffect.isFetch = 0 := by
  simp only [step]
  split
  · rfl
  · next ticket hl =>
    rw [afterTurn_effects]
    by_cases hc : b.pager.isCurrent ticket = true
    · rw [Pager.receive_error _ _ hc]
      exact (Pager.fail_unfetched b.pager e).countP
    · rw [Pager.receive_late _ _ (by simpa using hc)]
      rfl

theorem PinsPage.asks_browse_le (p : PinsPage) (e : Browser.Event) :
    asks (p.browse e).2 ≤ (p.browser.step e).2.1.countP PagerEffect.isFetch := by
  unfold PinsPage.browse asks
  rw [List.countP_filterMap]
  refine List.countP_mono_left fun effect _ h => ?_
  cases effect with
  | fetch user offset count => rfl
  | _ => simp [PinsPage.effectOf, PageEffect.isAsk] at h

theorem PinsPage.asks_browse (p : PinsPage) (e : Browser.Event) : asks (p.browse e).2 ≤ 1 :=
  (p.asks_browse_le e).trans (p.browser.step_issues_le e)

theorem PlaylistPage.asks_load (p : PlaylistPage) (text : String) : asks (p.load text).2 ≤ 1 := by
  rcases p.load_cases text with h | ⟨-, h⟩ <;> rw [h]
  · exact Nat.zero_le 1
  · exact Nat.le_refl 1

theorem ListensPage.asks_update (p : ListensPage) (session : Session) (settings : Settings)
    (m : ListensPage.Message) : asks (p.update session settings m).2 ≤ 1 := by
  cases m with
  | refresh => exact Nat.le_refl 1
  | card serial m => exact p.shelf.asks_act session _ _ serial m

theorem PinsPage.asks_update (p : PinsPage) (session : Session) (settings : Settings)
    (m : PinsPage.Message) : asks (p.update session settings m).2 ≤ 1 := by
  cases m with
  | older => exact p.asks_browse _
  | newer => exact p.asks_browse _
  | card serial m => exact p.shelf.asks_act session _ _ serial m

theorem PlaylistPage.asks_update (p : PlaylistPage) (session : Session) (settings : Settings)
    (m : PlaylistPage.Message) : asks (p.update session settings m).2 ≤ 1 := by
  have hact := fun serial => p.shelf.asks_act session settings.removalGraceMs.toNat
    (p.removal serial) serial
  cases m with
  | type text => exact Nat.zero_le 1
  | submit => exact p.asks_load _
  | card serial m =>
    cases m with
    | delete =>
      simp only [update, remove]
      split
      · exact Nat.zero_le 1
      · exact hact serial .delete
    | play => exact hact serial .play
    | rate requested => exact hact serial (.rate requested)
    | recommend => exact hact serial .recommend
    | pin => exact hact serial .pin

theorem PinDialog.asks_update (d : PinDialog) (session : Session) (m : PinDialog.Message) :
    asks (d.update session m).2 ≤ 1 := by
  cases m with
  | submit =>
    simp only [update, submit]
    split
    · exact Nat.le_refl 1
    · exact Nat.zero_le 1
  | _ => exact Nat.zero_le 1

/-! ### Replies -/

theorem ListensPage.asks_listensCame (p : ListensPage) (reply : Except ServerError (List Listen)) :
    asks (p.listensCame reply).2 ≤ 1 := by
  cases reply with
  | ok listens => exact Nat.le_refl 1
  | error e => exact Nat.zero_le 1

theorem PlaylistPage.asks_playlistCame (p : PlaylistPage) (mbid : String)
    (reply : Except ServerError Playlist) : asks (p.playlistCame mbid reply).2 ≤ 1 := by
  cases reply <;> exact Nat.zero_le 1

end Pages

/-! ## The application -/

namespace App

variable (a : App)

theorem length_applyAll (owner : Owner) (effects : List PageEffect) :
    (a.applyAll owner effects).2.length = asks effects := by
  have hfold : ∀ (effects : List PageEffect) (t : Turn),
      (effects.foldl (apply owner) t).2.length = t.2.length + asks effects := by
    intro effects
    induction effects with
    | nil => exact fun t => rfl
    | cons e effects ih =>
      intro t
      rw [List.foldl_cons, ih, asks, asks, List.countP_cons]
      cases e with
      | ask errand => simp [apply, PageEffect.isAsk]; omega
      | _ => simp [apply, PageEffect.isAsk]
  rw [applyAll, hfold, List.length_nil, Nat.zero_add]

theorem length_applyAll_le {owner : Owner} {effects : List PageEffect} (h : asks effects ≤ 1) :
    (a.applyAll owner effects).2.length ≤ 1 := by
  rw [length_applyAll]
  exact h

theorem applyAll_told {a : App} {owner : Owner} {effects : List PageEffect} (h : Told effects) :
    (a.applyAll owner effects).2 = [] :=
  List.length_eq_zero_iff.mp ((length_applyAll _ _ _).trans h.asks)

theorem calls_visit (view : View) : (a.visit view).2.length ≤ 1 := by
  have hpage : asks (a.pageOf view).2 ≤ 1 := by
    unfold pageOf
    cases view with
    | settings => exact Nat.zero_le 1
    | playlist => exact PlaylistPage.asks_load _ _
    | listens =>
      cases a.session.userName with
      | none => exact Nat.zero_le 1
      | some user => exact Nat.le_refl 1
    | pins =>
      cases a.session.userName with
      | none => exact Nat.zero_le 1
      | some user =>
        have hstart : asks (PinsPage.start user a.settings).2 ≤ 1 := PinsPage.asks_browse _ _
        exact hstart
  exact length_applyAll_le _ hpage

theorem calls_start (home : String) (store : Store) : (start home store).2.length ≤ 1 :=
  calls_visit _ .listens

/-- **Something the user does** makes one call at most. -/
theorem calls_update (m : Message) : (a.update m).2.length ≤ 1 := by
  change (a.perform m).2.length ≤ 1
  cases m with
  | look view =>
    simp only [perform]
    split
    · exact Nat.zero_le 1
    · exact a.calls_visit view
  | dismiss alert => exact Nat.zero_le 1
  | listens m =>
    simp only [perform]
    split
    · exact length_applyAll_le _ (ListensPage.asks_update _ _ _ m)
    · exact Nat.zero_le 1
  | pins m =>
    simp only [perform]
    split
    · exact length_applyAll_le _ (PinsPage.asks_update _ _ _ m)
    · exact Nat.zero_le 1
  | playlist m =>
    simp only [perform]
    split
    · exact length_applyAll_le _ (PlaylistPage.asks_update _ _ _ m)
    · exact Nat.zero_le 1
  | settings m =>
    simp only [perform]
    split <;> exact Nat.zero_le 1
  | dialog m => exact length_applyAll_le _ (PinDialog.asks_update _ _ m)

theorem calls_answerPage (errand : Errand) (reply : Except ServerError errand.call.Result) :
    (a.answerPage errand reply).2.length ≤ 1 := by
  cases errand with
  | listens user count =>
    simp only [answerPage]
    split
    · exact length_applyAll_le _ (ListensPage.asks_listensCame _ reply)
    · exact Nat.zero_le 1
  | scores user listens =>
    simp only [answerPage]
    split
    · exact length_applyAll_le _ told_nil.asks_le
    · exact Nat.zero_le 1
  | page request user offset count =>
    simp only [answerPage]
    split
    · exact length_applyAll_le _ (PinsPage.asks_browse _ _)
    · exact Nat.zero_le 1
  | playlist mbid =>
    simp only [answerPage]
    split
    · exact length_applyAll_le _ (PlaylistPage.asks_playlistCame _ mbid reply)
    · exact Nat.zero_le 1
  | change card item m grace =>
    simp only [answerPage]
    split
    · exact length_applyAll_le _ (ListensPage.changed_told _ card item m grace reply _).asks_le
    · exact length_applyAll_le _ (PinsPage.changed_told _ card item m grace reply _).asks_le
    · exact length_applyAll_le _ (PlaylistPage.changed_told _ card item m grace reply _).asks_le
    · exact Nat.zero_le 1

/-- **A reply** leads to one call at most. -/
theorem calls_receive (c : Pending) (reply : Except ServerError c.errand.call.Result) :
    (a.receive c reply).2.length ≤ 1 := by
  change (a.answer c reply).2.length ≤ 1
  unfold answer
  split
  · split
    · exact a.calls_answerPage _ _
    · exact Nat.zero_le 1
  · exact length_applyAll_le _ (PinDialog.answered_told _ _ _ _).asks_le
  · exact Nat.zero_le 1

theorem answerPage_error (errand : Errand) (e : ServerError) :
    (a.answerPage errand (.error e)).2 = [] := by
  cases errand with
  | page request user offset count =>
    simp only [answerPage]
    split
    · next p _ =>
      have hasks : asks (p.browse (.reply request (.error e))).2 = 0 :=
        Nat.le_zero.mp ((p.asks_browse_le _).trans (p.browser.step_error_fetches request e).le)
      exact List.length_eq_zero_iff.mp ((length_applyAll _ _ _).trans hasks)
    · rfl
  | change card item m grace =>
    simp only [answerPage]
    split
    · exact applyAll_told (ListensPage.changed_told _ card item m grace _ _)
    · exact applyAll_told (PinsPage.changed_told _ card item m grace _ _)
    · exact applyAll_told (PlaylistPage.changed_told _ card item m grace _ _)
    · rfl
  | _ =>
    simp only [answerPage]
    split <;> rfl

theorem answerPage_scores (user : String) (listens : List Listen)
    (reply : Except ServerError Scores) : (a.answerPage (.scores user listens) reply).2 = [] := by
  simp only [answerPage]
  split <;> rfl

end App

/-- A call that is not sent has failed, or is about the scores of no recordings. -/
theorem Call.of_unsent {c : Call} {base : String} {result : Except ServerError c.Result}
    (h : c.send base = .unsent result) :
    (∃ e, result = .error e) ∨ ∃ user, c = .scores user [] := by
  unfold Call.send at h
  split at h
  · next r hr =>
    unfold Call.known? at hr
    split at hr
    · exact .inr ⟨_, rfl⟩
    · cases hr
  · split at h
    · next e _ =>
      cases h
      exact .inl ⟨e, rfl⟩
    · cases h

/-- **A call that is not sent** leads to no other. -/
theorem App.receive_unsent (a : App) {c : Pending}
    {result : Except ServerError c.errand.call.Result}
    (h : c.errand.call.send c.base = .unsent result) : (a.receive c result).2 = [] := by
  obtain ⟨owner, base, errand⟩ := c
  change (a.answer ⟨owner, base, errand⟩ result).2 = []
  rcases Call.of_unsent h with ⟨e, rfl⟩ | ⟨user, hc⟩
  · cases owner with
    | page number =>
      simp only [answer]
      split
      · exact a.answerPage_error errand e
      · rfl
    | dialog =>
      cases errand with
      | change card item m grace =>
        exact applyAll_told (PinDialog.answered_told a.dialog item m (.error e))
      | _ => rfl
  · cases errand with
    | scores user listens =>
      cases owner with
      | page number =>
        simp only [answer]
        split
        · exact a.answerPage_scores user listens result
        · rfl
      | dialog => rfl
    | _ => cases hc

namespace Live

/-- **Calls are made** without a bound: a request is sent for each, unless it is settled without
one, and those it leads to then are made after the others. -/
inductive Made : Live → List Pending → Live → Prop
  | done (l : Live) : Made l [] l
  | sent {l l' : Live} {c : Pending} {rest : List Pending} {request : Request}
      (hsend : c.errand.call.send c.base = .sent request)
      (hrest : Made
        { l with
          waiting := l.waiting ++ [{ number := l.requests, call := c, request }]
          requests := l.requests + 1 } rest l') : Made l (c :: rest) l'
  | unsent {l l' : Live} {c : Pending} {rest : List Pending}
      {result : Except ServerError c.errand.call.Result}
      (hsend : c.errand.call.send c.base = .unsent result)
      (hrest : Made { l with app := (l.app.receive c result).1 }
        (rest ++ (l.app.receive c result).2) l') : Made l (c :: rest) l'

theorem Made.unique {l l₁ l₂ : Live} {calls : List Pending} (h₁ : Made l calls l₁)
    (h₂ : Made l calls l₂) : l₁ = l₂ := by
  induction h₁ with
  | done l =>
    cases h₂
    rfl
  | sent hsend _ ih =>
    cases h₂ with
    | sent hsend' hrest =>
      cases hsend.symm.trans hsend'
      exact ih hrest
    | unsent hsend' hrest => cases hsend.symm.trans hsend'
  | unsent hsend _ ih =>
    cases h₂ with
    | sent hsend' hrest => cases hsend.symm.trans hsend'
    | unsent hsend' hrest =>
      cases hsend.symm.trans hsend'
      exact ih hrest

/-- A bound that the calls do not pass is never reached. -/
theorem dispatch_made {fuel : Nat} {l : Live} {calls : List Pending} (h : calls.length ≤ fuel) :
    Made l calls (dispatch fuel l calls) := by
  induction calls generalizing l fuel with
  | nil => cases fuel <;> exact .done l
  | cons c rest ih =>
    obtain ⟨fuel, rfl⟩ := Nat.exists_eq_succ_of_ne_zero (Nat.ne_zero_of_lt h)
    have hfuel : rest.length ≤ fuel := Nat.le_of_succ_le_succ h
    simp only [dispatch]
    split
    · next request hsend => exact .sent hsend (ih hfuel)
    · next result hsend =>
      refine .unsent hsend ?_
      -- the call leads to no other, so the calls that are left are fewer
      rw [l.app.receive_unsent hsend, List.append_nil]
      exact ih hfuel

theorem afterTurn_made (l : Live) {t : App.Turn} (h : t.2.length ≤ 1) :
    Made { l with app := t.1 } t.2 (l.afterTurn t) :=
  dispatch_made (h.trans (by decide))

/-- **An event makes all its calls**: those that the user, or a reply that is waited for, leads
to. -/
def MakesAll (l : Live) : Event → Prop
  | .act m =>
    Made { l with app := (l.app.update m).1 } (l.app.update m).2 (l.step (.act m))
  | .reply number reply =>
    ∀ s, l.waiting.find? (·.number = number) = some s →
      let t := l.app.receive s.call (s.call.errand.call.settle s.request reply)
      Made { l with waiting := l.waiting.filter (·.number ≠ number), app := t.1 } t.2
        (l.step (.reply number reply))
  | .pass _ => True

theorem step_makesAll (l : Live) (e : Event) : l.MakesAll e := by
  cases e with
  | act m => exact l.afterTurn_made (l.app.calls_update m)
  | reply number reply =>
    intro s hs
    simp only [step, settle, hs]
    exact afterTurn_made { l with waiting := _ } (l.app.calls_receive s.call _)
  | pass ms => trivial

theorem start_made (home : String) (store : Store) :
    Made { app := (App.start home store).1 } (App.start home store).2 (start home store) :=
  afterTurn_made { app := _ } (App.calls_start home store)

end Live

end ListenDeck
