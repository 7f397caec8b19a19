import ListenDeck.Proofs.Actions.Gate
import ListenDeck.Proofs.App.Requests
import ListenDeck.Proofs.Playlist.Turns

/-!
# Who asks for changes

Only what the user does asks the server for a change, and every change that is asked for carries the
token the user has then. Starts, visits and replies only read.

* `PageEffect.Backed`, `Pending.Backed`: a change is asked for only with the token of a session.
* `Quiet`, `Pending.Reads`: no change is asked for.
* `App.calls_of_update`, `App.calls_of_receive`: what users and replies ask for.
-/

namespace ListenDeck

/-! ## Changes -/

/-- The change an errand asks for. -/
def Errand.mutation? : Errand → Option Mutation
  | .change _ _ m _ => some m
  | _ => none

/-- The change an effect asks for. -/
def PageEffect.mutation? : PageEffect → Option Mutation
  | .ask errand => errand.mutation?
  | _ => none

/-- **An effect is backed by a session** if the change it asks for carries the session's token. -/
def PageEffect.Backed (session : Session) (e : PageEffect) : Prop :=
  ∀ m, e.mutation? = some m → session.token = some m.token

theorem PageEffect.backed_of_none {e : PageEffect} (h : e.mutation? = none) (session : Session) :
    e.Backed session := by
  intro m hm
  rw [h] at hm
  cases hm

/-- A request only reads, and carries no token. -/
def Request.Reads (r : Request) : Prop := r.method = .get ∧ r.token = none

theorem Call.request?_eq {c : Call} {base : String} {r : Request} (h : c.request? base = .ok r) :
    r.method = c.method ∧ r.token = c.token := by
  unfold Call.request? at h
  split at h
  · cases h
  · split_ifs at h
    cases h
    exact ⟨rfl, rfl⟩

theorem Errand.call_of_mutation {e : Errand} {m : Mutation} (h : e.mutation? = some m) :
    e.call = .change m := by
  cases e with
  | change card item mutation grace =>
    cases h
    rfl
  | _ => cases h

theorem Errand.call_of_none {e : Errand} (h : e.mutation? = none) :
    e.call.method = .get ∧ e.call.token = none := by
  cases e with
  | change card item mutation grace => cases h
  | _ => exact ⟨rfl, rfl⟩

/-! ## Pages -/

section Pages
variable {e : PageEffect} {session : Session} {settings : Settings}

theorem Session.token_of_plan {item : Item} {action : Action} {m : Mutation}
    (h : session.plan item action = some m) : session.token = some m.token := by
  have hp : session.permits item action = true := by
    by_contra hn
    rw [plan_eq_none (Bool.not_eq_true _ ▸ hn)] at h
    cases h
  obtain ⟨m', success, hplan, ht, -⟩ := plan_of_permits hp
  rw [hplan] at h
  cases h
  exact ht

/-- **A button of a card** asks for no change without the token of the session. -/
theorem Shelf.act_backed {κ : Type} (s : Shelf κ) (session : Session) (grace : Nat)
    (removal : Action) (serial : Nat) (m : CardMessage)
    (h : e ∈ (s.act session grace removal serial m).2) : e.Backed session := by
  have hplan : ∀ c : MountedCard κ, e ∈ ((c.plan? session removal m).map fun mutation =>
      PageEffect.ask (.change serial c.shown mutation grace)).toList → e.Backed session := by
    intro c hc mutation hm
    obtain ⟨planned, hp, rfl⟩ := Option.map_eq_some_iff.mp (Option.mem_toList.mp hc)
    cases hm
    obtain ⟨action, -, ha⟩ := Option.bind_eq_some_iff.mp hp
    exact Session.token_of_plan ha
  unfold Shelf.act at h
  split at h
  · exact absurd h List.not_mem_nil
  · next c hc =>
    cases m with
    | play =>
      obtain ⟨item, -, rfl⟩ := Option.map_eq_some_iff.mp (Option.mem_toList.mp h)
      exact PageEffect.backed_of_none rfl session
    | pin =>
      rw [List.mem_singleton.mp h]
      exact PageEffect.backed_of_none rfl session
    | rate requested => exact hplan c h
    | delete => exact hplan c h
    | recommend => exact hplan c h

/-- Effects that ask for no change. -/
def Quiet (effects : List PageEffect) : Prop := ∀ e ∈ effects, e.mutation? = none

theorem quiet_nil : Quiet [] := fun _ h => absurd h List.not_mem_nil

theorem quiet_singleton {e : PageEffect} (h : e.mutation? = none) : Quiet [e] := by
  intro e' he
  rw [List.mem_singleton.mp he]
  exact h

theorem Quiet.backed {effects : List PageEffect} (h : Quiet effects) (he : e ∈ effects) :
    e.Backed session := PageEffect.backed_of_none (h e he) session

theorem ListensPage.load_quiet (p : ListensPage) (settings : Settings) :
    Quiet (p.load settings).2 := quiet_singleton rfl

theorem PinsPage.browse_quiet (p : PinsPage) (b : Browser.Event) : Quiet (p.browse b).2 := by
  intro e he
  obtain ⟨effect, -, heffect⟩ := List.mem_filterMap.mp he
  unfold PinsPage.effectOf at heffect
  split at heffect
  · split at heffect
    · cases heffect
      rfl
    · cases heffect
  · cases heffect
    rfl
  · cases heffect

theorem PlaylistPage.load_quiet (p : PlaylistPage) (text : String) : Quiet (p.load text).2 := by
  rcases p.load_cases text with h | ⟨-, h⟩ <;> rw [h]
  · exact quiet_nil
  · exact quiet_singleton rfl

theorem ListensPage.update_backed (p : ListensPage) (session : Session) (settings : Settings)
    (m : ListensPage.Message) (h : e ∈ (p.update session settings m).2) : e.Backed session := by
  cases m with
  | refresh => exact (p.load_quiet settings).backed h
  | card serial m => exact p.shelf.act_backed session _ _ serial m h

theorem PinsPage.update_backed (p : PinsPage) (session : Session) (settings : Settings)
    (m : PinsPage.Message) (h : e ∈ (p.update session settings m).2) : e.Backed session := by
  cases m with
  | older => exact (p.browse_quiet _).backed h
  | newer => exact (p.browse_quiet _).backed h
  | card serial m => exact p.shelf.act_backed session _ _ serial m h

theorem PlaylistPage.update_backed (p : PlaylistPage) (session : Session) (settings : Settings)
    (m : PlaylistPage.Message) (h : e ∈ (p.update session settings m).2) : e.Backed session := by
  have hact : ∀ serial m, e ∈ (p.shelf.act session settings.removalGraceMs.toNat
      (p.removal serial) serial m).2 → e.Backed session :=
    fun serial m => p.shelf.act_backed session _ _ serial m
  cases m with
  | type text => exact absurd h List.not_mem_nil
  | submit => exact (p.load_quiet _).backed h
  | card serial m =>
    cases m with
    | delete =>
      simp only [update, remove] at h
      split at h
      · exact absurd h List.not_mem_nil
      · exact hact serial .delete h
    | play => exact hact serial .play h
    | rate requested => exact hact serial (.rate requested) h
    | recommend => exact hact serial .recommend h
    | pin => exact hact serial .pin h

theorem PinDialog.update_backed (d : PinDialog) (session : Session) (m : PinDialog.Message)
    (h : e ∈ (d.update session m).2) : e.Backed session := by
  cases m with
  | type text => exact absurd h List.not_mem_nil
  | close => exact absurd h List.not_mem_nil
  | submit =>
    simp only [update, submit] at h
    split at h
    · next item token _ ht =>
      intro m hm
      rw [List.mem_singleton.mp h] at hm
      cases hm
      exact ht
    · exact absurd h List.not_mem_nil

/-! ### Replies -/

theorem ListensPage.listensCame_quiet (p : ListensPage) (reply : Except ServerError (List Listen)) :
    Quiet (p.listensCame reply).2 := by
  cases reply <;> exact quiet_singleton rfl

theorem PlaylistPage.playlistCame_quiet (p : PlaylistPage) (mbid : String)
    (reply : Except ServerError Playlist) : Quiet (p.playlistCame mbid reply).2 := by
  cases reply <;> exact quiet_singleton rfl

/-- Effects that only tell the user something. -/
def Told (effects : List PageEffect) : Prop := ∀ e ∈ effects, ∃ notice, e = .notify notice

theorem Told.quiet {effects : List PageEffect} (h : Told effects) : Quiet effects := by
  intro e he
  obtain ⟨notice, rfl⟩ := h e he
  rfl

theorem told_nil : Told [] := fun _ h => absurd h List.not_mem_nil

theorem told_map (notices : List Notice) : Told (notices.map .notify) := by
  intro e he
  obtain ⟨notice, -, rfl⟩ := List.mem_map.mp he
  exact ⟨notice, rfl⟩

theorem Shelf.settle_told {κ : Type} (s : Shelf κ) (serial place deadline : Nat)
    (settlement : Settlement) : Told (s.settle serial place deadline settlement).2 := by
  cases settlement with
  | scored msid score => exact told_nil
  | armed identity => exact told_nil
  | announced notice => exact told_map [notice]
  | failed notice => exact told_map [notice]

theorem Shelf.receive_told {κ : Type} {s shelf : Shelf κ} {now serial grace : Nat} {item : Item}
    {m : Mutation} {reply : Except ServerError Nat} {settlement : Settlement}
    {effects : List PageEffect}
    (h : s.receive? now serial item m grace reply = some (settlement, shelf, effects)) :
    Told effects := by
  unfold Shelf.receive? at h
  split_ifs at h
  obtain ⟨-, heq⟩ := Prod.mk.inj (Option.some.inj h)
  have hsettle := s.settle_told serial m.place (now + grace) (ListenDeck.settle item m reply)
  rw [heq] at hsettle
  exact hsettle

section Changed
variable (now serial : Nat) (item : Item) (m : Mutation) (grace : Nat)
  (reply : Except ServerError Nat)

/-- The reply to a change only tells the user something, whatever page it is for. -/
theorem ListensPage.changed_told (p : ListensPage) :
    Told (p.changed now serial item m grace reply).2 := by
  unfold ListensPage.changed
  split
  · exact told_nil
  · next h => exact Shelf.receive_told h

theorem PinsPage.changed_told (p : PinsPage) :
    Told (p.changed now serial item m grace reply).2 := by
  unfold PinsPage.changed
  split
  · exact told_nil
  · next h => exact Shelf.receive_told h

theorem PlaylistPage.changed_told (p : PlaylistPage) :
    Told (p.changed now serial item m grace reply).2 := by
  unfold PlaylistPage.changed
  split
  · exact told_nil
  · next h => exact Shelf.receive_told h

end Changed

theorem PinDialog.answered_told (d : PinDialog) (item : Item) (m : Mutation)
    (reply : Except ServerError Nat) : Told (d.answered item m reply).2 := told_map _

end Pages

/-! ## The application -/

namespace App

/-- What is done for an owner leaves the session as it is, and calls are made on its server. -/
theorem foldl_apply (owner : Owner) (effects : List PageEffect) (t : Turn) :
    (effects.foldl (apply owner) t).1.session = t.1.session ∧
      ∀ c ∈ (effects.foldl (apply owner) t).2,
        c ∈ t.2 ∨ c.base = t.1.session.base ∧ .ask c.errand ∈ effects := by
  induction effects generalizing t with
  | nil => exact ⟨rfl, fun c hc => .inl hc⟩
  | cons e effects ih =>
    obtain ⟨hsession, hcalls⟩ := ih (apply owner t e)
    have hs : (apply owner t e).1.session = t.1.session := by
      cases e with
      | remember mbid =>
        simp only [apply, remember]
        split <;> rfl
      | _ => rfl
    refine ⟨hsession.trans hs, fun c hc => ?_⟩
    rcases hcalls c hc with hc | ⟨hbase, hc⟩
    · cases e with
      | ask errand =>
        rcases List.mem_append.mp hc with hc | hc
        · exact .inl hc
        · rw [List.mem_singleton.mp hc]
          exact .inr ⟨rfl, List.mem_cons_self⟩
      | _ => exact .inl hc
    · exact .inr ⟨hbase.trans (congrArg _ hs), List.mem_cons_of_mem _ hc⟩

section Turn
variable (a : App) (owner : Owner) (effects : List PageEffect)

theorem applyAll_session : (a.applyAll owner effects).1.session = a.session :=
  (foldl_apply owner effects (a, [])).1

theorem applyAll_calls : ∀ c ∈ (a.applyAll owner effects).2,
    c.base = a.session.base ∧ .ask c.errand ∈ effects := by
  intro c hc
  rcases (foldl_apply owner effects (a, [])).2 c hc with h | h
  · exact absurd h List.not_mem_nil
  · exact h

end Turn

end App

/-- **A call is backed by a session** if the change it asks for carries the session's token and goes
to the session's server. -/
def Pending.Backed (session : Session) (c : Pending) : Prop :=
  ∀ m, c.errand.mutation? = some m → session.token = some m.token ∧ c.base = session.base

/-- A call that changes nothing. -/
def Pending.Reads (c : Pending) : Prop := c.errand.mutation? = none

theorem Pending.Reads.request {c : Pending} {r : Request} (h : c.Reads)
    (hr : c.errand.call.request? c.base = .ok r) : r.Reads := by
  obtain ⟨hmethod, htoken⟩ := Call.request?_eq hr
  obtain ⟨hget, hnone⟩ := Errand.call_of_none h
  exact ⟨hmethod.trans hget, htoken.trans hnone⟩

namespace App

variable (a : App)

theorem applyAll_backed {owner : Owner} {effects : List PageEffect}
    (h : ∀ e ∈ effects, e.Backed a.session) :
    ∀ c ∈ (a.applyAll owner effects).2, c.Backed a.session := by
  intro c hc m hm
  obtain ⟨hbase, hask⟩ := a.applyAll_calls owner effects c hc
  exact ⟨h _ hask m hm, hbase⟩

theorem applyAll_reads {owner : Owner} {effects : List PageEffect} (h : Quiet effects) :
    ∀ c ∈ (a.applyAll owner effects).2, c.Reads := by
  intro c hc
  obtain ⟨-, hask⟩ := a.applyAll_calls owner effects c hc
  exact h _ hask

theorem backed_of_reads {session : Session} {c : Pending} (h : c.Reads) : c.Backed session := by
  intro m hm
  rw [h] at hm
  cases hm

theorem visit_reads (view : View) : ∀ c ∈ (a.visit view).2, c.Reads := by
  have hquiet : Quiet (a.pageOf view).2 := by
    unfold pageOf
    cases view with
    | settings => exact quiet_nil
    | playlist => exact PlaylistPage.load_quiet _ _
    | listens =>
      cases a.session.userName with
      | none => exact quiet_nil
      | some user => exact ListensPage.load_quiet _ _
    | pins =>
      cases a.session.userName with
      | none => exact quiet_nil
      | some user =>
        have hstart : Quiet (PinsPage.start user a.settings).2 := PinsPage.browse_quiet _ _
        exact hstart
  exact applyAll_reads _ hquiet

theorem start_reads (home : String) (store : Store) : ∀ c ∈ (start home store).2, c.Reads :=
  visit_reads _ .listens

/-- **What the user does** asks for changes only with the token the user has. -/
theorem calls_of_update (m : Message) : ∀ c ∈ (a.update m).2, c.Backed a.session := by
  have hnone : ∀ c ∈ ([] : List Pending), c.Backed a.session :=
    fun _ h => absurd h List.not_mem_nil
  change ∀ c ∈ (a.perform m).2, c.Backed a.session
  cases m with
  | look view =>
    simp only [perform]
    split
    · exact hnone
    · exact fun c hc => backed_of_reads (a.visit_reads view c hc)
  | dismiss alert => exact hnone
  | listens m =>
    simp only [perform]
    split
    · exact applyAll_backed { a with page := _ } fun e he => ListensPage.update_backed _ _ _ m he
    · exact hnone
  | pins m =>
    simp only [perform]
    split
    · exact applyAll_backed { a with page := _ } fun e he => PinsPage.update_backed _ _ _ m he
    · exact hnone
  | playlist m =>
    simp only [perform]
    split
    · exact applyAll_backed { a with page := _ } fun e he => PlaylistPage.update_backed _ _ _ m he
    · exact hnone
  | settings m =>
    simp only [perform]
    split <;> exact hnone
  | dialog m =>
    exact applyAll_backed { a with dialog := _ } fun e he => PinDialog.update_backed _ _ m he

theorem answerPage_reads (errand : Errand) (reply : Except ServerError errand.call.Result) :
    ∀ c ∈ (a.answerPage errand reply).2, c.Reads := by
  have hnone : ∀ c ∈ ([] : List Pending), c.Reads := fun _ h => absurd h List.not_mem_nil
  cases errand with
  | listens user count =>
    simp only [answerPage]
    split
    · exact applyAll_reads _ (ListensPage.listensCame_quiet _ reply)
    · exact hnone
  | scores user listens =>
    simp only [answerPage]
    split
    · exact applyAll_reads _ quiet_nil
    · exact hnone
  | page request user offset count =>
    simp only [answerPage]
    split
    · exact applyAll_reads _ (PinsPage.browse_quiet _ _)
    · exact hnone
  | playlist mbid =>
    simp only [answerPage]
    split
    · exact applyAll_reads _ (PlaylistPage.playlistCame_quiet _ mbid reply)
    · exact hnone
  | change card item m grace =>
    simp only [answerPage]
    split
    · exact applyAll_reads _ (ListensPage.changed_told _ card item m grace reply _).quiet
    · exact applyAll_reads _ (PinsPage.changed_told _ card item m grace reply _).quiet
    · exact applyAll_reads _ (PlaylistPage.changed_told _ card item m grace reply _).quiet
    · exact hnone

/-- **What a reply leads to** asks for no change. -/
theorem calls_of_receive : Live.FollowUp Pending.Reads := by
  have hnone : ∀ c ∈ ([] : List Pending), c.Reads := fun _ h => absurd h List.not_mem_nil
  intro a c reply
  change ∀ d ∈ (a.answer c reply).2, d.Reads
  unfold answer
  split
  · split
    · exact a.answerPage_reads _ _
    · exact hnone
  · exact applyAll_reads _ (PinDialog.answered_told _ _ _ _).quiet
  · exact hnone

end App

end ListenDeck
