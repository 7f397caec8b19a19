import ListenDeck.Proofs.Alerts.Lifetimes
import ListenDeck.Proofs.App.Calls

/-!
# The alerts of the application

The application raises alerts under the timeout it was started with, dismisses those the user asks
it to, and lets time pass. So its alerts are those of a queue to which that happened.

* `App.toldOn`, `App.toldOnReply`: the notices that the user is told, turn by turn.
* `App.Raises`: alerts with given notices are raised, and nothing else happens to the alerts.
* `Live.told`: the notices of an event, with those of a call that is settled without a request;
  there is one such call at most.
* `Live.step_alerts`, `Live.run_alerts`: what an event and a run do to the alerts.
* `alerts_last_their_time`: the alerts of every queue, with timers and without, and those of the
  application.
-/

namespace ListenDeck

namespace AlertQueue

/-- Alerts with these notices are raised, one after the other. -/
def raiseAll (q : AlertQueue) (now timeout : Nat) (told : List Notice) : AlertQueue :=
  told.foldl (·.raise now timeout ·) q

/-- It makes no difference whether overdue alerts go away one by one or in the end. -/
theorem run_raisings (q : AlertQueue) (now timeout : Nat) (told : List Notice) :
    run (now, q.expire now) (told.map (.raise timeout)) =
      (now, (q.raiseAll now timeout told).expire now) := by
  induction told generalizing q with
  | nil => rfl
  | cons notice told ih =>
    rw [List.map_cons, run_raise, expire_raise_expire, ih]
    rfl

end AlertQueue

/-! ## Notices -/

/-- The notice an effect tells. -/
def PageEffect.notice? : PageEffect → Option Notice
  | .notify notice => some notice
  | _ => none

/-- The notices that effects tell, in order. -/
def notices (effects : List PageEffect) : List Notice := effects.filterMap (·.notice?)

namespace App

/-- The notices that something the user does tells: those of the page or the dialog it is for, and
whether the settings could be saved. -/
def toldOn (a : App) : Message → List Notice
  | .look view => if view = a.view then [] else notices (a.pageOf view).2
  | .dismiss _ => []
  | .dialog m => notices (a.dialog.update a.session m).2
  | .listens m =>
    match a.page with
    | .listens p => notices (p.update a.session a.settings m).2
    | _ => []
  | .pins m =>
    match a.page with
    | .pins p => notices (p.update a.session a.settings m).2
    | _ => []
  | .playlist m =>
    match a.page with
    | .playlist p => notices (p.update a.session a.settings m).2
    | _ => []
  | .settings m =>
    match a.page, m with
    | .settings f, .save => [savedNotice a.home (a.store.save (f.settings a.settings)).2]
    | .settings _, .signOut =>
      [savedNotice a.home (a.store.save { a.settings with user := none }).2]
    | _, _ => []

/-- The notices that the reply to an errand of the page that is open tells. -/
def toldOnErrand (a : App) : (e : Errand) → Except ServerError e.call.Result → List Notice
  | .listens _ _, reply =>
    match a.page with
    | .listens p => notices (p.listensCame reply).2
    | _ => []
  | .scores _ listens, reply =>
    match a.page with
    | .listens p => notices (p.scoresCame listens reply).2
    | _ => []
  | .page request _ _ _, reply =>
    match a.page with
    | .pins p => notices (p.pageCame request reply).2
    | _ => []
  | .playlist mbid, reply =>
    match a.page with
    | .playlist p => notices (p.playlistCame mbid reply).2
    | _ => []
  | .change card item m grace, reply =>
    match a.page with
    | .listens p => notices (p.changed a.now card item m grace reply).2
    | .pins p => notices (p.changed a.now card item m grace reply).2
    | .playlist p => notices (p.changed a.now card item m grace reply).2
    | _ => []

/-- The notices that the reply to a call tells; one of a page that is gone tells nothing. -/
def toldOnReply (a : App) (c : Pending) (reply : Except ServerError c.errand.call.Result) :
    List Notice :=
  match c, reply with
  | ⟨.page number, _, errand⟩, reply =>
    if number = a.opened then a.toldOnErrand errand reply else []
  | ⟨.dialog, _, .change _ item m _⟩, reply => notices (a.dialog.answered item m reply).2
  | ⟨.dialog, _, _⟩, _ => []

/-- The notices a call tells at once: those of its reply, if it is settled without a request. -/
def toldUnsent (a : App) (c : Pending) : List Notice :=
  match c.errand.call.send c.base with
  | .sent _ => []
  | .unsent result => a.toldOnReply c result

/-! ## Raising alerts -/

/-- **Alerts with these notices are raised**, and nothing else happens to the alerts. -/
def Raises (a a' : App) (told : List Notice) : Prop :=
  a'.now = a.now ∧ a'.alertTimeout = a.alertTimeout ∧
    a'.alerts = a.alerts.raiseAll a.now a.alertTimeout told

section Raises
variable {a a' a'' : App} {told told' : List Notice}

theorem Raises.trans (h : a.Raises a' told) (h' : a'.Raises a'' told') :
    a.Raises a'' (told ++ told') := by
  obtain ⟨hnow, htimeout, halerts⟩ := h
  obtain ⟨hnow', htimeout', halerts'⟩ := h'
  refine ⟨hnow'.trans hnow, htimeout'.trans htimeout, ?_⟩
  rw [halerts', hnow, htimeout, halerts]
  exact List.foldl_append.symm

theorem raises_of_eq (hnow : a'.now = a.now) (htimeout : a'.alertTimeout = a.alertTimeout)
    (halerts : a'.alerts = a.alerts) : a.Raises a' [] := ⟨hnow, htimeout, halerts⟩

theorem Raises.refl (a : App) : a.Raises a [] := raises_of_eq rfl rfl rfl

theorem notify_raises (a : App) (notice : Notice) : a.Raises (a.notify notice) [notice] :=
  ⟨rfl, rfl, rfl⟩

theorem applyAll_raises (a : App) (owner : Owner) (effects : List PageEffect) :
    a.Raises (a.applyAll owner effects).1 (notices effects) := by
  have hfold : ∀ t : Turn, t.1.Raises (effects.foldl (apply owner) t).1 (notices effects) := by
    induction effects with
    | nil => exact fun t => .refl t.1
    | cons e effects ih =>
      intro t
      have hquiet : e.notice? = none → t.1.Raises (apply owner t e).1 [] →
          t.1.Raises ((e :: effects).foldl (apply owner) t).1 (notices (e :: effects)) := by
        intro hnone hstep
        rw [notices, List.filterMap_cons_none hnone]
        exact hstep.trans (ih _)
      cases e with
      | notify notice => exact (t.1.notify_raises notice).trans (ih _)
      | remember mbid =>
        refine hquiet rfl ?_
        simp only [apply, remember]
        split <;> exact raises_of_eq rfl rfl rfl
      | _ => exact hquiet rfl (raises_of_eq rfl rfl rfl)
  exact hfold (a, [])

theorem turnPage_raises (a : App) (page : Page) (effects : List PageEffect) :
    a.Raises (a.turnPage page effects).1 (notices effects) :=
  applyAll_raises { a with page } _ effects

theorem turnDialog_raises (a : App) (t : PageTurn PinDialog) :
    a.Raises (a.turnDialog t).1 (notices t.2) := applyAll_raises { a with dialog := t.1 } _ t.2

theorem visit_raises (a : App) (view : View) :
    a.Raises (a.visit view).1 (notices (a.pageOf view).2) :=
  turnPage_raises { a with view, opened := a.opened + 1 } (a.pageOf view).1 (a.pageOf view).2

theorem keepLoudly_raises (a : App) (settings : Settings) :
    a.Raises (a.keepLoudly settings) [savedNotice a.home (a.store.save settings).2] :=
  (a.keep settings).notify_raises _

theorem saveSettings_raises (a : App) (f : SettingsForm) : a.Raises (a.saveSettings f)
    [savedNotice a.home (a.store.save (f.settings a.settings)).2] := by
  let opened : App := { a with
    page := .settings (f.saved (f.settings a.settings))
    session := .start (f.settings a.settings).apiUrl (f.settings a.settings).user }
  have hopened : a.Raises opened [] := raises_of_eq rfl rfl rfl
  exact hopened.trans (opened.keepLoudly_raises (f.settings a.settings))

theorem signOut_raises (a : App) (f : SettingsForm) : a.Raises (a.signOut f)
    [savedNotice a.home (a.store.save { a.settings with user := none }).2] := by
  let left : App := { a with page := .settings f.signedOut, session := a.session.signOut }
  have hleft : a.Raises left [] := raises_of_eq rfl rfl rfl
  exact hleft.trans (left.keepLoudly_raises { a.settings with user := none })

/-- **What the user does** raises alerts at most, unless it dismisses one. -/
theorem perform_raises (a : App) (m : Message) (hm : ∀ n, m ≠ .dismiss n) :
    a.Raises (a.perform m).1 (a.toldOn m) := by
  cases m with
  | look view =>
    simp only [perform, toldOn]
    split
    · exact .refl a
    · exact a.visit_raises view
  | dismiss alert => exact absurd rfl (hm alert)
  | dialog m => exact a.turnDialog_raises _
  | listens m =>
    cases hpage : a.page with
    | listens p =>
      simp only [perform, toldOn, hpage]
      exact a.turnPage_raises _ _
    | _ =>
      simp only [perform, toldOn, hpage]
      exact .refl a
  | pins m =>
    cases hpage : a.page with
    | pins p =>
      simp only [perform, toldOn, hpage]
      exact a.turnPage_raises _ _
    | _ =>
      simp only [perform, toldOn, hpage]
      exact .refl a
  | playlist m =>
    cases hpage : a.page with
    | playlist p =>
      simp only [perform, toldOn, hpage]
      exact a.turnPage_raises _ _
    | _ =>
      simp only [perform, toldOn, hpage]
      exact .refl a
  | settings m =>
    cases hpage : a.page with
    | settings f =>
      cases m with
      | type field text =>
        simp only [perform, toldOn, hpage]
        exact raises_of_eq rfl rfl rfl
      | save =>
        simp only [perform, toldOn, hpage]
        exact a.saveSettings_raises f
      | signOut =>
        simp only [perform, toldOn, hpage]
        exact a.signOut_raises f
    | _ =>
      simp only [perform, toldOn, hpage]
      exact .refl a

theorem answerPage_raises (a : App) (errand : Errand)
    (reply : Except ServerError errand.call.Result) :
    a.Raises (a.answerPage errand reply).1 (a.toldOnErrand errand reply) := by
  cases errand <;> cases hpage : a.page <;> simp only [answerPage, toldOnErrand, hpage] <;>
    first | exact a.turnPage_raises _ _ | exact .refl a

/-- **A reply** raises alerts at most. -/
theorem answer_raises (a : App) (c : Pending) (reply : Except ServerError c.errand.call.Result) :
    a.Raises (a.answer c reply).1 (a.toldOnReply c reply) := by
  obtain ⟨owner, base, errand⟩ := c
  cases owner with
  | page number =>
    simp only [answer, toldOnReply]
    split_ifs
    · exact a.answerPage_raises errand reply
    · exact .refl a
  | dialog =>
    cases errand with
    | change card item m grace => exact a.turnDialog_raises _
    | _ => exact .refl a

/-- Nothing is told when the application starts, before it makes its call. -/
theorem start_alerts (home : String) (store : Store) :
    (start home store).1.now = 0 ∧ (start home store).1.alerts = {} := by
  have hquiet : ∀ a : App, notices (a.pageOf .listens).2 = [] := by
    intro a
    unfold pageOf
    cases a.session.userName <;> rfl
  have hvisit : ∀ a : App, a.now = 0 → a.alerts = {} →
      (a.visit .listens).1.settleTime.now = 0 ∧ (a.visit .listens).1.settleTime.alerts = {} := by
    intro a hnow halerts
    obtain ⟨hsame, -, hraised⟩ := a.visit_raises .listens
    rw [hquiet, halerts] at hraised
    refine ⟨hsame.trans hnow, ?_⟩
    show (a.visit .listens).1.alerts.expire _ = {}
    rw [hraised]
    rfl
  exact hvisit _ rfl rfl

/-! ## Alerts that are not overdue -/

/-- No alert is overdue. -/
def Prompt (a : App) : Prop := AlertQueue.Prompt a.now a.alerts

theorem settleTime_prompt (a : App) : a.settleTime.Prompt :=
  AlertQueue.prompt_expire a.now a.alerts

/-- The alerts become those of a queue on which alerts with these notices were raised. -/
def Tells (a a' : App) (told : List Notice) : Prop :=
  a'.alertTimeout = a.alertTimeout ∧
    AlertQueue.run (a.now, a.alerts) (told.map (.raise a.alertTimeout)) = (a'.now, a'.alerts)

theorem Tells.refl (a : App) : a.Tells a [] := ⟨rfl, rfl⟩

theorem Tells.trans (h : a.Tells a' told) (h' : a'.Tells a'' told') :
    a.Tells a'' (told ++ told') := by
  refine ⟨h'.1.trans h.1, ?_⟩
  rw [List.map_append, AlertQueue.run_append, h.2, ← h.1, h'.2]

theorem Raises.tells (h : a.Raises a' told) (hp : a.Prompt) : a.Tells a'.settleTime told := by
  obtain ⟨hnow, htimeout, halerts⟩ := h
  refine ⟨htimeout, ?_⟩
  show _ = (a'.now, a'.alerts.expire a'.now)
  rw [hnow, halerts, ← AlertQueue.run_raisings, AlertQueue.expire_of_prompt hp]

end Raises

end App

/-! ## Events -/

namespace Live

/-- The notices of an event: those of what the user does or of the reply, and then those of the call
it leads to, if that is settled without a request. -/
def told (l : Live) : Event → List Notice
  | .act m => l.app.toldOn m ++ (l.app.update m).2.flatMap (l.app.update m).1.toldUnsent
  | .reply number reply =>
    match l.waiting.find? (·.number = number) with
    | none => []
    | some s =>
      let result := s.call.errand.call.settle s.request reply
      let t := l.app.receive s.call result
      l.app.toldOnReply s.call result ++ t.2.flatMap t.1.toldUnsent
  | .pass _ => []

/-- The notices of each event of a run. -/
def toldBy : Live → List Event → List (List Notice)
  | _, [] => []
  | l, e :: es => l.told e :: toldBy (l.step e) es

/-- The notices of the start. -/
def toldAtStart (home : String) (store : Store) : List Notice :=
  (App.start home store).2.flatMap (App.start home store).1.toldUnsent

/-- What an event does to the alerts: the user dismisses one, time passes, or notices are told. -/
def Event.toAlerts (timeout : Nat) : Event → List Notice → List AlertQueue.Event
  | .act (.dismiss number), _ => [.dismiss number]
  | .pass ms, _ => [.pass ms]
  | _, told => told.map (.raise timeout)

variable {l : Live}

/-- A call that is made tells what it tells at once, and no other call follows it. -/
theorem afterTurn_tells (l : Live) {t : App.Turn} (ht : t.1.Prompt) (hcalls : t.2.length ≤ 1) :
    t.1.Tells (l.afterTurn t).app (t.2.flatMap t.1.toldUnsent) ∧ (l.afterTurn t).app.Prompt := by
  obtain ⟨a, calls⟩ := t
  rcases calls with _ | ⟨c, rest⟩
  · exact ⟨.refl a, ht⟩
  · have hlength : rest.length = 0 := Nat.le_zero.mp (Nat.le_of_succ_le_succ hcalls)
    obtain rfl : rest = [] := List.length_eq_zero_iff.mp hlength
    have hmade := l.afterTurn_made hcalls
    rw [List.flatMap_singleton, App.toldUnsent]
    generalize l.afterTurn (a, [c]) = l' at hmade ⊢
    cases hmade with
    | sent hsend hrest =>
      cases hrest
      rw [hsend]
      exact ⟨.refl a, ht⟩
    | unsent hsend hrest =>
      have hnone := App.receive_unsent a hsend
      dsimp only at hrest hnone
      rw [hnone] at hrest
      cases hrest
      rw [hsend]
      exact ⟨(a.answer_raises c _).tells ht, App.settleTime_prompt _⟩

/-- **What an event does to the alerts**, which are not overdue afterwards either. -/
theorem step_alerts (hp : l.app.Prompt) (e : Event) :
    (l.step e).app.Prompt ∧ (l.step e).app.alertTimeout = l.app.alertTimeout ∧
      AlertQueue.run (l.app.now, l.app.alerts) (e.toAlerts l.app.alertTimeout (l.told e)) =
        ((l.step e).app.now, (l.step e).app.alerts) := by
  cases e with
  | act m =>
    obtain ⟨hmore, hprompt⟩ := l.afterTurn_tells (t := l.app.update m)
      (App.settleTime_prompt (l.app.perform m).1) (l.app.calls_update m)
    by_cases hm : ∃ n, m = .dismiss n
    · obtain ⟨n, rfl⟩ := hm
      have hkept : AlertQueue.Prompt l.app.now (l.app.alerts.dismiss n) := fun a ha =>
        hp a (List.mem_of_mem_filter ha)
      exact ⟨hprompt, rfl,
        congrArg (Prod.mk l.app.now) (AlertQueue.expire_of_prompt hkept).symm⟩
    · have hne : ∀ n, m ≠ .dismiss n := fun n h => hm ⟨n, h⟩
      have htold := ((l.app.perform_raises m hne).tells hp).trans hmore
      cases m with
      | dismiss n => exact absurd rfl (hne n)
      | _ => exact ⟨hprompt, htold⟩
  | reply number reply =>
    cases hfind : l.waiting.find? (·.number = number) with
    | none =>
      have hsame : l.step (.reply number reply) = l := by simp only [step, settle, hfind]
      have hnone : l.told (.reply number reply) = [] := by simp only [told, hfind]
      rw [hsame, hnone]
      exact ⟨hp, rfl, rfl⟩
    | some s =>
      obtain ⟨hmore, hprompt⟩ := afterTurn_tells
        (t := l.app.receive s.call (s.call.errand.call.settle s.request reply))
        { l with waiting := l.waiting.filter (·.number ≠ number) } (App.settleTime_prompt _)
        (l.app.calls_receive s.call _)
      simp only [step, settle, told, hfind]
      exact ⟨hprompt, ((l.app.answer_raises s.call _).tells hp).trans hmore⟩
  | pass ms => exact ⟨App.settleTime_prompt _, rfl, rfl⟩

theorem toldBy_length (l : Live) (es : List Event) : (l.toldBy es).length = es.length := by
  induction es generalizing l with
  | nil => rfl
  | cons e es ih => exact congrArg Nat.succ (ih (l.step e))

/-- **What a run does to the alerts**: each event in its turn, with the notices it told. -/
theorem run_alerts (hp : l.app.Prompt) (es : List Event) :
    AlertQueue.run (l.app.now, l.app.alerts)
      (List.zipWith (Event.toAlerts l.app.alertTimeout) es (l.toldBy es)).flatten =
        ((l.run es).app.now, (l.run es).app.alerts) := by
  induction es generalizing l with
  | nil => rfl
  | cons e es ih =>
    obtain ⟨hprompt, htimeout, hfirst⟩ := step_alerts hp e
    rw [toldBy, List.zipWith_cons_cons, List.flatten_cons, AlertQueue.run_append, hfirst,
      ← htimeout, ih hprompt]
    rfl

theorem start_alerts (home : String) (store : Store) :
    (start home store).app.Prompt ∧
      AlertQueue.run (0, {})
        ((toldAtStart home store).map (.raise (start home store).app.alertTimeout)) =
          ((start home store).app.now, (start home store).app.alerts) := by
  obtain ⟨hnow, halerts⟩ := App.start_alerts home store
  obtain ⟨⟨htimeout, htold⟩, hprompt⟩ := afterTurn_tells { app := (App.start home store).1 }
    (t := App.start home store) (App.settleTime_prompt _) (App.calls_start home store)
  rw [hnow, halerts, ← htimeout] at htold
  exact ⟨hprompt, htold⟩

end Live

/-- **Alerts last their time.** Whatever happens to a queue, with any timeouts and any numbers to
dismiss, alerts are numbered from 1 on in the order they were raised, and those that it shows are,
in that order, the ones whose own timeout has not passed and that were not dismissed since. If each
alert has a timer that fires at any moment after its deadline, the queue is the same once no timer
may fire; a timer takes its own alert only, not before its deadline, and none that was dismissed.
The alerts of the application are those of a queue to which happened what the user dismissed, the
time that passed, and the notices that were told under the timeout in force: by the page and the
dialog, when the settings were saved, and by calls that were settled without a request. -/
theorem alerts_last_their_time :
    (∀ (now : Nat) (events : List TimedQueue.Event),
      let happened := events.filterMap TimedQueue.Event.plain?
      AlertQueue.Lawful now happened (AlertQueue.run (now, {}) happened) ∧
      (TimedQueue.run { now } events).Follows (AlertQueue.run (now, {}) happened)) ∧
    ∀ (home : String) (store : Store) (events : List Live.Event),
      let start := Live.start home store
      let app := (start.run events).app
      let timeout := start.app.alertTimeout
      (start.toldBy events).length = events.length ∧
        AlertQueue.Lawful 0
          ((Live.toldAtStart home store).map (.raise timeout) ++
            (List.zipWith (Live.Event.toAlerts timeout) events (start.toldBy events)).flatten)
          (app.now, app.alerts) := by
  refine ⟨fun now events => ⟨AlertQueue.run_lawful now _, TimedQueue.run_follows now events⟩,
    fun home store events => ⟨Live.toldBy_length _ events, ?_⟩⟩
  obtain ⟨hprompt, hstart⟩ := Live.start_alerts home store
  rw [← Live.run_alerts hprompt events, ← hstart, ← AlertQueue.run_append]
  exact AlertQueue.run_lawful 0 _

end ListenDeck
