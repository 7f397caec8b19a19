import ListenDeck.Proofs.App.Calls
import ListenDeck.Proofs.App.Replies

/-!
# Pins and the dialog

One dialog serves all items. A pin is sent for the item the dialog is open for; when its reply
comes, the dialog may be closed, or open for another item.

* `PinDialog.face`: what the dialog is open for, and the words in it.
* `App.opened?`, `Live.opened?`: the item that a press of a card's button opens the dialog for.
* `Live.run_chosen`: where the dialog is open for an item it was opened for it.
* `Live.sent_by_dialog`: a request of the dialog pins the item it was open for.
* `PinDialog.Spares`: a reply leaves the dialog of another item alone.
* `Live.pins_spare_iff`: it does unless the pin was confirmed and the dialog is open for another
  item, which it then was opened for after the request was sent.
* `Live.pin_closes_other`: a confirmation that closes the dialog of another item.
-/

namespace ListenDeck

/-! ## The dialog -/

namespace PinDialog

/-- What there is to see of the dialog: the item it is open for, if it is, and the words in it. -/
def face (d : PinDialog) : Option Item × String := (d.chosen, d.blurb)

/-- There is nothing to see. -/
def closed : Option Item × String := (none, "")

theorem answered_face (d : PinDialog) (item : Item) (m : Mutation)
    (reply : Except ServerError Nat) : (d.answered item m reply).1.face =
      if confirmed reply = .ok () then closed else d.face := by
  unfold answered ListenDeck.settle
  cases confirmed reply with
  | error e => rw [if_neg (by rintro ⟨⟩)]; rfl
  | ok u => cases m <;> rfl

/-- **The dialog of another item is left alone**: it stays open, with the words in it. -/
def Spares (item : Item) (d d' : PinDialog) : Prop :=
  ∀ other, d.chosen = some other → other ≠ item → d'.face = d.face

/-- What closes the dialog under a condition leaves that of another item alone exactly if the
condition fails or the dialog is not open for another item. -/
theorem spares_iff {item : Item} {d d' : PinDialog} {closes : Bool}
    (h : d'.face = if closes then closed else d.face) : Spares item d d' ↔
      (closes = true → ∀ other, d.chosen = some other → other = item) := by
  constructor
  · intro hspares hr other hother
    by_contra hne
    have hsame := hspares other hother hne
    rw [h, if_pos hr] at hsame
    exact absurd ((congrArg Prod.fst hsame).trans hother) (by rintro ⟨⟩)
  · intro honly other hother hne
    have hr : ¬ closes = true := fun hr => hne (honly hr other hother)
    rw [h, if_neg hr]

end PinDialog

/-! ## Who opens it -/

/-- The item that an effect opens the dialog for. -/
def PageEffect.choice? : PageEffect → Option Item
  | .choose item => some item
  | _ => none

/-- The items that effects open the dialog for, in order. -/
def choices (effects : List PageEffect) : List Item := effects.filterMap (·.choice?)

theorem choices_told {effects : List PageEffect} (h : Told effects) : choices effects = [] := by
  refine List.filterMap_eq_nil_iff.mpr fun e he => ?_
  obtain ⟨notice, rfl⟩ := h e he
  rfl

theorem Shelf.act_choices {κ : Type} (s : Shelf κ) (session : Session) (grace : Nat)
    (removal : Action) (serial : Nat) (m : CardMessage) :
    choices (s.act session grace removal serial m).2 =
      if m = .pin then ((s.find? serial).map (·.shown)).toList else [] := by
  have hask : ∀ plan : Option Mutation, ∀ c : MountedCard κ,
      choices (plan.map fun mutation =>
        PageEffect.ask (.change serial c.shown mutation grace)).toList = [] := by
    intro plan c
    cases plan <;> rfl
  unfold act
  split
  · next hc =>
    rw [hc]
    split_ifs <;> rfl
  · next c hc =>
    rw [hc]
    cases m with
    | pin => rfl
    | play =>
      rw [if_neg (by rintro ⟨⟩)]
      simp only [play, hc]
      split_ifs <;> rfl
    | rate requested => exact hask _ c
    | delete => exact hask _ c
    | recommend => exact hask _ c

theorem PinsPage.browse_choices (p : PinsPage) (e : Browser.Event) :
    choices (p.browse e).2 = [] := by
  refine List.filterMap_eq_nil_iff.mpr fun effect heffect => ?_
  obtain ⟨pe, -, hpe⟩ := List.mem_filterMap.mp heffect
  unfold PinsPage.effectOf at hpe
  split at hpe
  · split at hpe
    · cases hpe
      rfl
    · cases hpe
  · cases hpe
    rfl
  · cases hpe

theorem PlaylistPage.load_choices (p : PlaylistPage) (text : String) :
    choices (p.load text).2 = [] := by
  rcases p.load_cases text with h | ⟨-, h⟩ <;> rw [h] <;> rfl

namespace App

/-- **The item that a press of a card's button opens the dialog for.** -/
def opened? (a : App) (m : Message) : Option Item :=
  match a.page, m with
  | .listens p, .listens (.card serial .pin) => (p.shelf.find? serial).map (·.shown)
  | .pins p, .pins (.card serial .pin) => (p.shelf.find? serial).map (·.shown)
  | .playlist p, .playlist (.card serial .pin) => (p.shelf.find? serial).map (·.shown)
  | _, _ => none

variable (a : App)

theorem applyAll_dialog (owner : Owner) (effects : List PageEffect) :
    (a.applyAll owner effects).1.dialog = (choices effects).foldl PinDialog.choose a.dialog := by
  have hfold : ∀ t : Turn, (effects.foldl (apply owner) t).1.dialog =
      (choices effects).foldl PinDialog.choose t.1.dialog := by
    induction effects with
    | nil => exact fun t => rfl
    | cons e effects ih =>
      intro t
      rw [List.foldl_cons, ih]
      cases e with
      | remember mbid =>
        simp only [apply, remember]
        split <;> rfl
      | _ => rfl
  exact hfold (a, [])

theorem turnPage_dialog (page : Page) {effects : List PageEffect} {item : Option Item}
    (h : choices effects = item.toList) :
    (a.turnPage page effects).1.dialog = item.elim a.dialog a.dialog.choose := by
  rw [turnPage, applyAll_dialog, h]
  cases item <;> rfl

theorem visit_dialog (view : View) : (a.visit view).1.dialog = a.dialog := by
  have hchoices : choices (a.pageOf view).2 = (none : Option Item).toList := by
    unfold pageOf
    cases view with
    | settings => rfl
    | playlist => exact PlaylistPage.load_choices _ _
    | listens => cases a.session.userName <;> rfl
    | pins =>
      cases a.session.userName with
      | none => rfl
      | some user =>
        have hstart : choices (PinsPage.start user a.settings).2 = [] :=
          PinsPage.browse_choices _ _
        exact hstart
  exact turnPage_dialog { a with view, opened := a.opened + 1 } (a.pageOf view).1 hchoices

theorem keepLoudly_dialog (settings : Settings) : (a.keepLoudly settings).dialog = a.dialog := rfl

theorem saveSettings_dialog (f : SettingsForm) : (a.saveSettings f).dialog = a.dialog := by
  unfold saveSettings
  rw [keepLoudly_dialog]

theorem signOut_dialog (f : SettingsForm) : (a.signOut f).dialog = a.dialog := by
  unfold signOut
  rw [keepLoudly_dialog]

/-- **What the user does outside of the dialog** opens it for an item, or leaves it as it is. -/
theorem update_dialog (m : Message) (hm : ∀ m', m ≠ .dialog m') :
    (a.update m).1.dialog = (a.opened? m).elim a.dialog a.dialog.choose := by
  change (a.perform m).1.dialog = _
  cases m with
  | look view =>
    have hnone : a.opened? (.look view) = none := by unfold opened?; cases a.page <;> rfl
    rw [hnone]
    simp only [perform]
    split
    · rfl
    · exact a.visit_dialog view
  | dismiss alert =>
    have hnone : a.opened? (.dismiss alert) = none := by unfold opened?; cases a.page <;> rfl
    rw [hnone]
    rfl
  | listens m =>
    simp only [perform, opened?]
    cases a.page with
    | listens p =>
      refine turnPage_dialog a _ ?_
      cases m with
      | refresh => rfl
      | card serial m =>
        refine (p.shelf.act_choices _ _ _ serial m).trans ?_
        cases m <;> rfl
    | _ => rfl
  | pins m =>
    simp only [perform, opened?]
    cases a.page with
    | pins p =>
      refine turnPage_dialog a _ ?_
      cases m with
      | older => exact p.browse_choices _
      | newer => exact p.browse_choices _
      | card serial m =>
        refine (p.shelf.act_choices _ _ _ serial m).trans ?_
        cases m <;> rfl
    | _ => rfl
  | playlist m =>
    simp only [perform, opened?]
    cases a.page with
    | playlist p =>
      refine turnPage_dialog a _ ?_
      cases m with
      | type text => rfl
      | submit => exact p.load_choices _
      | card serial m =>
        have hact := p.shelf.act_choices a.session a.settings.removalGraceMs.toNat
          (p.removal serial) serial m
        cases m with
        | delete =>
          simp only [PlaylistPage.update, PlaylistPage.remove]
          split_ifs
          · rfl
          · exact hact
        | _ => exact hact
    | _ => rfl
  | settings m =>
    have hnone : a.opened? (.settings m) = none := by unfold opened?; cases a.page <;> rfl
    rw [hnone]
    simp only [perform]
    split
    · rfl
    · exact a.saveSettings_dialog _
    · exact a.signOut_dialog _
    · rfl
  | dialog m => exact absurd rfl (hm m)

theorem update_dialog_chosen (m : PinDialog.Message) :
    (a.update (.dialog m)).1.dialog.chosen = a.dialog.chosen ∨
      (a.update (.dialog m)).1.dialog.chosen = none := by
  have hdialog : (a.update (.dialog m)).1.dialog = (a.dialog.update a.session m).1 := by
    change (a.turnDialog _).1.dialog = _
    have hchoices : choices (a.dialog.update a.session m).2 = [] := by
      cases m with
      | submit =>
        simp only [PinDialog.update, PinDialog.submit]
        split <;> rfl
      | _ => rfl
    rw [turnDialog, applyAll_dialog, hchoices]
    rfl
  rw [hdialog]
  cases m with
  | type text => exact .inl rfl
  | close => exact .inr rfl
  | submit =>
    simp only [PinDialog.update, PinDialog.submit]
    split <;> exact .inl rfl

/-! ### Replies -/

theorem answerPage_dialog (errand : Errand) (reply : Except ServerError errand.call.Result) :
    (a.answerPage errand reply).1.dialog = a.dialog := by
  have hturn : ∀ (page : Page) {effects : List PageEffect}, choices effects = [] →
      (a.turnPage page effects).1.dialog = a.dialog := by
    intro page effects h
    have hnone : choices effects = (none : Option Item).toList := h
    exact turnPage_dialog a page hnone
  cases errand with
  | listens user count =>
    simp only [answerPage]
    split
    · refine hturn _ ?_
      cases reply <;> rfl
    · rfl
  | scores user listens =>
    simp only [answerPage]
    split
    · exact hturn _ rfl
    · rfl
  | page request user offset count =>
    simp only [answerPage]
    split
    · exact hturn _ (PinsPage.browse_choices _ _)
    · rfl
  | playlist mbid =>
    simp only [answerPage]
    split
    · refine hturn _ ?_
      cases reply <;> rfl
    · rfl
  | change card item m grace =>
    simp only [answerPage]
    split
    · exact hturn _ (choices_told (ListensPage.changed_told _ card item m grace reply _))
    · exact hturn _ (choices_told (PinsPage.changed_told _ card item m grace reply _))
    · exact hturn _ (choices_told (PlaylistPage.changed_told _ card item m grace reply _))
    · rfl

theorem receive_dialog_of_page {c : Pending} (hc : c.owner ≠ .dialog)
    (result : Except ServerError c.errand.call.Result) :
    (a.receive c result).1.dialog = a.dialog := by
  change (a.answer c result).1.dialog = a.dialog
  obtain ⟨owner, base, errand⟩ := c
  cases owner with
  | page number =>
    simp only [answer]
    split_ifs
    · exact a.answerPage_dialog errand result
    · rfl
  | dialog => exact absurd rfl hc

/-- **The reply to a pin** closes the dialog if the pin was confirmed. -/
theorem receive_face (base : String) (card : Nat) (item : Item) (m : Mutation) (grace : Nat)
    (reply : Except ServerError Nat) :
    (a.receive ⟨.dialog, base, .change card item m grace⟩ reply).1.dialog.face =
      if confirmed reply = .ok () then PinDialog.closed else a.dialog.face := by
  change (a.turnDialog (a.dialog.answered item m reply)).1.dialog.face = _
  rw [turnDialog, applyAll_dialog, choices_told (PinDialog.answered_told a.dialog item m reply)]
  exact PinDialog.answered_face a.dialog item m reply

theorem receive_face_cases (c : Pending) (result : Except ServerError c.errand.call.Result) :
    (a.receive c result).1.dialog.face = a.dialog.face ∨
      (a.receive c result).1.dialog.face = PinDialog.closed := by
  by_cases hc : c.owner = .dialog
  · obtain ⟨owner, base, errand⟩ := c
    obtain rfl : owner = .dialog := hc
    cases errand with
    | change card item m grace =>
      have hface := a.receive_face base card item m grace result
      split_ifs at hface
      · exact .inr hface
      · exact .inl hface
    | _ => exact .inl rfl
  · exact .inl (congrArg PinDialog.face (a.receive_dialog_of_page hc result))

theorem receive_face_of_unsent {c : Pending} {result : Except ServerError c.errand.call.Result}
    (h : c.errand.call.send c.base = .unsent result) :
    (a.receive c result).1.dialog.face = a.dialog.face := by
  by_cases hc : c.owner = .dialog
  · obtain ⟨owner, base, errand⟩ := c
    obtain rfl : owner = .dialog := hc
    cases errand with
    | change card item m grace =>
      rcases Call.of_unsent h with ⟨e, rfl⟩ | ⟨user, hcall⟩
      · exact a.receive_face base card item m grace (.error e)
      · cases hcall
    | _ => rfl
  · rw [a.receive_dialog_of_page hc]

/-! ### Owners -/

theorem applyAll_owner (owner : Owner) (effects : List PageEffect) :
    ∀ c ∈ (a.applyAll owner effects).2, c.owner = owner := by
  have hfold : ∀ t : Turn, (∀ c ∈ t.2, c.owner = owner) →
      ∀ c ∈ (effects.foldl (apply owner) t).2, c.owner = owner := by
    induction effects with
    | nil => exact fun t h => h
    | cons e effects ih =>
      intro t h
      refine ih _ fun c hc => ?_
      cases e with
      | ask errand =>
        rcases List.mem_append.mp hc with hc | hc
        · exact h c hc
        · rw [List.mem_singleton.mp hc]
      | _ => exact h c hc
  exact hfold (a, []) fun c hc => absurd hc List.not_mem_nil

theorem turnPage_owner (page : Page) (effects : List PageEffect) :
    ∀ c ∈ (a.turnPage page effects).2, c.owner ≠ .dialog := by
  intro c hc
  have ho : c.owner = .page a.opened :=
    ({ a with page } : App).applyAll_owner (.page a.opened) effects c hc
  rw [ho]
  rintro ⟨⟩

theorem answerPage_owner (errand : Errand) (reply : Except ServerError errand.call.Result) :
    ∀ c ∈ (a.answerPage errand reply).2, c.owner ≠ .dialog := by
  have hnone : ∀ c ∈ ([] : List Pending), c.owner ≠ .dialog :=
    fun _ h => absurd h List.not_mem_nil
  cases errand <;> simp only [answerPage] <;> split <;>
    first | exact hnone | exact a.turnPage_owner _ _

/-- **Replies lead to no calls of the dialog.** -/
theorem receive_owner : Live.FollowUp fun c => c.owner ≠ .dialog := by
  intro a c reply
  change ∀ d ∈ (a.answer c reply).2, d.owner ≠ .dialog
  unfold answer
  split
  · split
    · exact a.answerPage_owner _ _
    · exact fun _ h => absurd h List.not_mem_nil
  · intro d hd
    obtain ⟨-, hask⟩ := applyAll_calls _ _ _ d hd
    obtain ⟨notice, heq⟩ := PinDialog.answered_told _ _ _ _ _ hask
    cases heq
  · exact fun _ h => absurd h List.not_mem_nil

/-- A call of the dialog pins the item the dialog is open for, and is made by its button. -/
theorem update_owner (m : Message) : ∀ c ∈ (a.update m).2, c.owner = .dialog →
    m = .dialog .submit ∧ ∃ item token, a.dialog.chosen = some item ∧
      c.errand = .change 0 item (PinDialog.pinOf token item a.dialog.blurb) 0 := by
  have hnone : ∀ c ∈ ([] : List Pending), c.owner ≠ .dialog :=
    fun _ h => absurd h List.not_mem_nil
  change ∀ c ∈ (a.perform m).2, _
  cases m with
  | dialog m =>
    intro c hc _
    obtain ⟨-, hask⟩ := applyAll_calls _ _ _ c hc
    cases m with
    | type text => exact absurd hask List.not_mem_nil
    | close => exact absurd hask List.not_mem_nil
    | submit =>
      simp only [PinDialog.update, PinDialog.submit] at hask
      split at hask
      · next item token hitem _ =>
        rw [List.mem_singleton, PageEffect.ask.injEq] at hask
        exact ⟨rfl, item, token, hitem, hask⟩
      · exact absurd hask List.not_mem_nil
  | look view =>
    intro c hc ho
    simp only [perform] at hc
    split at hc
    · exact absurd ho (hnone c hc)
    · exact absurd ho (turnPage_owner _ _ _ c hc)
  | dismiss alert => exact fun c hc ho => absurd ho (hnone c hc)
  | settings m =>
    intro c hc ho
    simp only [perform] at hc
    split at hc <;> exact absurd ho (hnone c hc)
  | _ =>
    intro c hc ho
    simp only [perform] at hc
    split at hc
    · exact absurd ho (turnPage_owner _ _ _ c hc)
    · exact absurd ho (hnone c hc)

end App

namespace Live

/-! ## The course of the dialog -/

theorem dispatch_face (fuel : Nat) (l : Live) (calls : List Pending) :
    (dispatch fuel l calls).app.dialog.face = l.app.dialog.face := by
  induction fuel generalizing l calls with
  | zero => rfl
  | succ fuel ih =>
    cases calls with
    | nil => rfl
    | cons c rest =>
      simp only [dispatch]
      split
      · rw [ih]
      · next result hsend =>
        rw [ih]
        exact l.app.receive_face_of_unsent hsend

/-- The item that an event opens the dialog for. -/
def opened? (l : Live) : Event → Option Item
  | .act m => l.app.opened? m
  | _ => none

/-- **The reply to a pin** closes the dialog if it confirms the pin, whatever the dialog is open
for. -/
theorem reply_face {l : Live} {number : Nat} {s : Sent} {base : String} {card : Nat} {item : Item}
    {m : Mutation} {grace : Nat} (reply : Reply)
    (hs : l.waiting.find? (·.number = number) = some s)
    (hc : s.call = ⟨.dialog, base, .change card item m grace⟩) :
    (l.step (.reply number reply)).app.dialog.face =
      if reply.confirms then PinDialog.closed else l.app.dialog.face := by
  obtain ⟨n, call, request⟩ := s
  subst hc
  simp only [step, settle, hs]
  rw [afterTurn, dispatch_face]
  refine (l.app.receive_face base card item m grace _).trans ?_
  have hconfirms := confirmed_settle m request reply
  by_cases hr : reply.confirms = true
  · rw [if_pos hr]
    exact if_pos (hconfirms.mpr hr)
  · rw [if_neg hr]
    exact if_neg fun h => hr (hconfirms.mp h)

theorem closes_other {l : Live} {number : Nat} {card : Nat} {item other : Item} {m : Mutation}
    {grace : Nat} {words : String} (reply : Reply)
    (hs : (l.waiting.find? (·.number = number)).map (fun s => (s.call.owner, s.call.errand)) =
      some (.dialog, .change card item m grace))
    (hface : l.app.dialog.face = (some other, words)) (hne : other ≠ item)
    (hr : reply.confirms = true) :
    (l.step (.reply number reply)).app.dialog.face = PinDialog.closed ∧
      ¬ PinDialog.Spares item l.app.dialog (l.step (.reply number reply)).app.dialog := by
  obtain ⟨⟨n, ⟨owner, base, errand⟩, request⟩, hs, heq⟩ := Option.map_eq_some_iff.mp hs
  obtain ⟨rfl, rfl⟩ := Prod.mk.inj heq
  have hclosed := reply_face reply hs rfl
  refine ⟨hclosed.trans (if_pos hr), fun h => ?_⟩
  exact hne ((PinDialog.spares_iff hclosed).mp h hr other (congrArg Prod.fst hface))

/-- **What an event makes of the dialog**: it stays open for what it is open for, or is closed, or
is opened for an item. -/
theorem step_chosen (l : Live) (e : Event) :
    (l.step e).app.dialog.chosen = l.app.dialog.chosen ∨ (l.step e).app.dialog.chosen = none ∨
      ∃ item, l.opened? e = some item ∧ (l.step e).app.dialog.chosen = some item := by
  cases e with
  | pass ms => exact .inl rfl
  | act m =>
    have hface : (l.step (.act m)).app.dialog.chosen = (l.app.update m).1.dialog.chosen :=
      congrArg Prod.fst (dispatch_face maxCalls { l with app := (l.app.update m).1 } _)
    rw [hface]
    by_cases hm : ∃ m', m = .dialog m'
    · obtain ⟨m', rfl⟩ := hm
      exact (l.app.update_dialog_chosen m').imp_right .inl
    · rw [l.app.update_dialog m fun m' h => hm ⟨m', h⟩]
      cases hopened : l.app.opened? m with
      | none => exact .inl rfl
      | some item => exact .inr (.inr ⟨item, hopened, rfl⟩)
  | reply number reply =>
    simp only [step, settle]
    split
    · exact .inl rfl
    · next s _ =>
      have hface := dispatch_face maxCalls
        { l with
          waiting := l.waiting.filter (·.number ≠ number)
          app := (l.app.receive s.call (s.call.errand.call.settle s.request reply)).1 }
        (l.app.receive s.call (s.call.errand.call.settle s.request reply)).2
      rcases l.app.receive_face_cases s.call (s.call.errand.call.settle s.request reply) with h | h
      · exact .inl (congrArg Prod.fst (hface.trans h))
      · exact .inr (.inl (congrArg Prod.fst (hface.trans h)))

/-- **Where the dialog is open for an item** it was opened for it, or was open for it before. -/
theorem run_chosen {l : Live} {es : List Event} {item : Item}
    (h : (l.run es).app.dialog.chosen = some item) : l.app.dialog.chosen = some item ∨
      ∃ before e after, es = before ++ e :: after ∧ (l.run before).opened? e = some item := by
  induction es using List.reverseRecOn with
  | nil => exact .inl h
  | append_singleton es e ih =>
    have hrun : l.run (es ++ [e]) = (l.run es).step e := List.foldl_append
    rw [hrun] at h
    rcases step_chosen (l.run es) e with hsame | hnone | ⟨opened, hopened, hchosen⟩
    · rcases ih (hsame ▸ h) with hbefore | ⟨before, e', after, rfl, ho⟩
      · exact .inl hbefore
      · exact .inr ⟨before, e', after ++ [e], by simp, ho⟩
    · rw [hnone] at h
      cases h
    · rw [hchosen] at h
      exact .inr ⟨es, e, [], rfl, hopened.trans h⟩

/-! ## Requests of the dialog -/

/-- **A request of the dialog** is sent by its button, and pins the item the dialog is open for. -/
theorem sent_by_dialog {l : Live} (hl : l.Numbered) {e : Event} {s : Sent} (hs : s ∈ l.sent e)
    (ho : s.call.owner = .dialog) :
    e = .act (.dialog .submit) ∧ ∃ item token, l.app.dialog.chosen = some item ∧
      s.call.errand = .change 0 item (PinDialog.pinOf token item l.app.dialog.blurb) 0 := by
  let P : Pending → Prop := fun c => c.owner = .dialog →
    e = .act (.dialog .submit) ∧ ∃ item token, l.app.dialog.chosen = some item ∧
      c.errand = .change 0 item (PinDialog.pinOf token item l.app.dialog.blurb) 0
  have hfollow : FollowUp P := fun a c result d hd ho =>
    absurd ho (App.receive_owner a c result d hd)
  have hact : ∀ m, e = .act m → ∀ c ∈ (l.app.update m).2, P c := by
    rintro m rfl c hc ho
    obtain ⟨rfl, hpin⟩ := l.app.update_owner m c hc ho
    exact ⟨rfl, hpin⟩
  exact ((sent_spec hfollow hl e hact).2.2.2 s hs).1 ho

theorem start_waiting_owner (home : String) (store : Store) :
    ∀ s ∈ (start home store).waiting, s.call.owner ≠ .dialog := by
  have hstart : ∀ c ∈ (App.start home store).2, c.owner ≠ .dialog :=
    fun c hc => App.turnPage_owner _ _ _ c hc
  intro s hs
  exact ((start_sends App.receive_owner home store hstart).2.2 s hs).1

theorem submit_chosen {l : Live} {item other : Item} (hitem : l.app.dialog.chosen = some item)
    (h : (l.step (.act (.dialog .submit))).app.dialog.chosen = some other) : other = item := by
  rcases step_chosen l (.act (.dialog .submit)) with hsame | hnone | ⟨opened, hopened, -⟩
  · rw [hsame, hitem] at h
    exact (Option.some.inj h).symm
  · rw [hnone] at h
    cases h
  · have hnothing : l.opened? (.act (.dialog .submit)) = none := by
      unfold opened? App.opened?
      cases l.app.page <;> rfl
    rw [hnothing] at hopened
    cases hopened

/-- **Where the dialog is open for another item** than the one it was open for when its button was
pressed, it was opened for that one since. -/
theorem opened_since_submit {l : Live} {before after : List Event} {item other : Item}
    (hitem : (l.run before).app.dialog.chosen = some item)
    (hother : (l.run (before ++ .act (.dialog .submit) :: after)).app.dialog.chosen = some other)
    (hne : other ≠ item) : ∃ mid e rest, after = mid ++ e :: rest ∧
      (l.run (before ++ .act (.dialog .submit) :: mid)).opened? e = some other := by
  have hrun : ∀ mid, l.run (before ++ .act (.dialog .submit) :: mid) =
      ((l.run before).step (.act (.dialog .submit))).run mid := fun mid => List.foldl_append
  rw [hrun] at hother
  rcases run_chosen hother with hfirst | ⟨mid, e, rest, hafter, hopened⟩
  · exact absurd (submit_chosen hitem hfirst) hne
  · exact ⟨mid, e, rest, hafter, by rw [hrun]; exact hopened⟩

/-- **A reply to a pin and the dialog.** In every run, whatever waits for a reply on behalf of the
dialog was sent by the dialog's button, and pins the item the dialog was open for then. When its
reply comes, the dialog is closed and its words are gone if the pin is confirmed, and nothing
changes otherwise, whatever it is open for. If it is open for another item by then, it was opened
for that one after the request was sent. So the reply leaves the dialog of another item alone
exactly if the pin is not confirmed or the dialog is not open for another item; it does if the
dialog was opened for no other item since the request was sent. -/
theorem pins_spare_iff {home : String} {store : Store} {es : List Event} {number : Nat} {s : Sent}
    (hs : ((start home store).run es).waiting.find? (·.number = number) = some s)
    (ho : s.call.owner = .dialog) (reply : Reply) :
    let l := start home store
    let d := (l.run es).app.dialog
    let d' := ((l.run es).step (.reply number reply)).app.dialog
    ∃ before after item token, es = before ++ .act (.dialog .submit) :: after ∧
      s ∈ (l.run before).sent (.act (.dialog .submit)) ∧
      (l.run before).app.dialog.chosen = some item ∧
      s.call.errand =
        .change 0 item (PinDialog.pinOf token item (l.run before).app.dialog.blurb) 0 ∧
      d'.face = (if reply.confirms then PinDialog.closed else d.face) ∧
      (∀ other, d.chosen = some other → other ≠ item → ∃ mid e rest, after = mid ++ e :: rest ∧
        (l.run (before ++ .act (.dialog .submit) :: mid)).opened? e = some other) ∧
      (PinDialog.Spares item d d' ↔
        (reply.confirms = true → ∀ other, d.chosen = some other → other = item)) ∧
      ((∀ mid e rest other, after = mid ++ e :: rest →
        (l.run (before ++ .act (.dialog .submit) :: mid)).opened? e = some other → other = item) →
        PinDialog.Spares item d d') := by
  intro l d d'
  have hl : l.Numbered := (start_sends followUp_true home store fun _ _ => trivial).1
  have hsent : ∃ before e after, es = before ++ e :: after ∧ s ∈ (l.run before).sent e := by
    rcases sent_of_waiting s (List.mem_of_find?_eq_some hs) with hstart | hsent
    · exact absurd ho (start_waiting_owner home store s hstart)
    · exact hsent
  obtain ⟨before, e, after, rfl, hsent⟩ := hsent
  obtain ⟨rfl, item, token, hitem, herrand⟩ := sent_by_dialog (run_numbered hl before) hsent ho
  have hface : d'.face = if reply.confirms then PinDialog.closed else d.face := by
    obtain ⟨n, ⟨owner, base, errand⟩, request⟩ := s
    obtain rfl : owner = .dialog := ho
    obtain rfl := herrand
    exact reply_face reply hs rfl
  have hlater : ∀ other, d.chosen = some other → other ≠ item →
      ∃ mid e rest, after = mid ++ e :: rest ∧
        (l.run (before ++ .act (.dialog .submit) :: mid)).opened? e = some other :=
    fun other hother hne => opened_since_submit hitem hother hne
  have hspares : PinDialog.Spares item d d' ↔
      (reply.confirms = true → ∀ other, d.chosen = some other → other = item) :=
    PinDialog.spares_iff hface
  refine ⟨before, after, item, token, rfl, hsent, hitem, herrand, hface, hlater, hspares,
    fun honly => hspares.mpr fun _ other hother => ?_⟩
  by_contra hne
  obtain ⟨mid, e, rest, hafter, hopened⟩ := hlater other hother hne
  exact hne (honly mid e rest other hafter hopened)

/-- A listen of a recording. -/
def listenOf (msid : String) (time : Int64) : Item :=
  .listen { listenedAt := some time, track := { ids := { recordingMsid := some msid } } }

/-- Somebody signs in and looks at their two listens. The dialog is opened for the first one, the
pin is sent, and the dialog is closed, opened for the second one, and words are typed in. -/
def otherOpen : List Event :=
  let listen (msid time : String) := "\x7b\"listened_at\":" ++ time ++
    ",\"track_metadata\":\x7b\"additional_info\":\x7b\"recording_msid\":\"" ++ msid ++
    "\"\x7d\x7d\x7d"
  let listens := "\x7b\"payload\":\x7b\"listens\":[" ++ listen "a" "2" ++ "," ++
    listen "b" "1" ++ "]\x7d\x7d"
  [.act (.look .settings), .act (.settings (.type .apiUrl "http://h")),
    .act (.settings (.type .userName "rob")), .act (.settings (.type .token "tok")),
    .act (.settings .save), .act (.look .listens),
    .reply 0 (.answered 200 (Text.utf8Bytes listens.toList)), .reply 1 .lost,
    .act (.listens (.card 0 .pin)), .act (.dialog .submit), .act (.dialog .close),
    .act (.listens (.card 1 .pin)), .act (.dialog (.type "words"))]

theorem otherOpen_waits :
    let l := (start "" .fresh).run otherOpen
    l.app.dialog.face = (some (listenOf "b" 1), "words") ∧
      (l.waiting.find? (·.number = 2)).map (fun s => (s.call.owner, s.call.errand)) =
        some (.dialog,
          .change 0 (listenOf "a" 2) (PinDialog.pinOf "tok" (listenOf "a" 2) "") 0) := by
  decide +kernel

/-- The pin of the first listen is lost, and the dialog of the second one is left alone. -/
theorem pins_spare_of_loss :
    let l := (start "" .fresh).run otherOpen
    l.app.dialog.face = (some (listenOf "b" 1), "words") ∧
      PinDialog.Spares (listenOf "a" 2) l.app.dialog (l.step (.reply 2 .lost)).app.dialog := by
  intro l
  obtain ⟨hface, hcall⟩ := otherOpen_waits
  obtain ⟨s, hs, hcall⟩ := Option.map_eq_some_iff.mp hcall
  obtain ⟨howner, herrand⟩ := Prod.mk.inj hcall
  obtain ⟨_, _, item, _, _, _, _, hpin, _, _, hspares, _⟩ := pins_spare_iff hs howner .lost
  obtain ⟨-, rfl, -, -⟩ := Errand.change.inj (herrand.symm.trans hpin)
  exact ⟨hface, hspares.mpr fun h => by cases h⟩

/-- **A confirmed pin closes the dialog of another item.** -/
theorem pin_closes_other :
    let l := (start "" .fresh).run otherOpen
    l.app.dialog.face = (some (listenOf "b" 1), "words") ∧
      (l.waiting.find? (·.number = 2)).map (fun s => (s.call.owner, s.call.errand)) =
        some (.dialog,
          .change 0 (listenOf "a" 2) (PinDialog.pinOf "tok" (listenOf "a" 2) "") 0) ∧
      (l.step (.reply 2 (.answered 200 []))).app.dialog.face = PinDialog.closed ∧
      ¬ PinDialog.Spares (listenOf "a" 2) l.app.dialog
        (l.step (.reply 2 (.answered 200 []))).app.dialog := by
  intro l
  obtain ⟨hface, hcall⟩ := otherOpen_waits
  obtain ⟨hclosed, hspares⟩ := closes_other (.answered 200 []) hcall hface (by decide) (by decide)
  exact ⟨hface, hcall, hclosed, hspares⟩

end Live

end ListenDeck
