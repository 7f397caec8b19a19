import ListenDeck.Proofs.App.Alerts
import ListenDeck.Proofs.App.Displays

/-!
# What a card plays

The play button of a card asks for the item the card showed when it was seen first, whatever the
card shows by now: a later list may bring another item under the key of a card, and the card stays.
So a card plays what it shows exactly as long as that is what it showed first.

* `App.Happening`, `App.after`, `App.moments`: what can happen to the application, and what it leads
  to.
* `App.firstShown?`: what a card showed when it was there for the first time.
* `App.pressPlay`: what the play button of a card asks for.
* `App.Advances`, `App.turn_advances`: the cards after a turn of the application.
* `App.Remembers`, `App.remembers_after`: the cards have the items they showed first.
* `Live.run_after`: the application at work comes to nothing else.
* `App.plays_first_shown`: what a card plays, and when that is what it shows.
* `App.plays_other_track`: a card that plays another track than it shows.
-/

namespace ListenDeck

/-! ## Pages -/

namespace Page

variable {p : Page}

theorem Laid.numbered (h : p.Laid) : p.display.Numbered := by
  cases p with
  | listens p => exact (Shelf.Keyed.numbered h).display
  | pins p => exact (PinsPage.Laid.keyed h).numbered.display
  | playlist p => exact (PlaylistPage.Laid.numbered h).display
  | nobody => exact ⟨List.nodup_nil, fun _ hf => absurd hf List.not_mem_nil⟩
  | settings f => exact ⟨List.nodup_nil, fun _ hf => absurd hf List.not_mem_nil⟩

/-- **A page as it is opened**: every card plays what it shows, and no removal waits. -/
structure Fresh (p : Page) : Prop where
  laid : p.Laid
  faces : ∀ f ∈ p.display.faces, f.own = f.shown
  removals : p.removals = []

theorem Fresh.of_moves {p' : Page} (hp : p.display.faces = []) (hr : p.removals = [])
    (laid : p'.Laid) (h : p.display.Follows p'.display)
    (removals : ∀ r ∈ p'.removals, r ∈ p.removals) : p'.Fresh := by
  refine ⟨laid, fun f hf => ?_, List.eq_nil_iff_forall_not_mem.2 fun r h => ?_⟩
  · rcases h.faces f hf with ⟨-, own⟩ | ⟨g, hg, -⟩
    · exact own
    · rw [hp] at hg
      exact absurd hg List.not_mem_nil
  · exact absurd (hr ▸ removals r h) List.not_mem_nil

end Page

namespace App

/-! ## Runs -/

/-- **Something that happens** to the application. -/
inductive Happening where
  | act (message : Message)
  /-- A call has its result, whether or not it was made. -/
  | reply (call : Pending) (result : Except ServerError call.errand.call.Result)
  | pass (ms : Nat)

/-- What it leads to. -/
def turn (a : App) : Happening → App
  | .act m => (a.update m).1
  | .reply c result => (a.receive c result).1
  | .pass ms => a.pass ms

/-- The application after some happenings. -/
def after (a : App) (hs : List Happening) : App := hs.foldl turn a

/-- The application before the happenings, and after each of them. -/
def moments (a : App) : List Happening → List App
  | [] => [a]
  | h :: hs => a :: (a.turn h).moments hs

/-- What a card of a page shows, while it is there. -/
def showing? (page card : Nat) (a : App) : Option Item :=
  if a.opened = page then (a.page.display.find? card).map (·.shown) else none

/-- **What a card showed when it was there for the first time.** -/
def firstShown? (a : App) (hs : List Happening) (page card : Nat) : Option Item :=
  (a.moments hs).findSome? (showing? page card)

/-- **What a press of a card's play button asks for.** -/
def pressPlay (a : App) (card : Nat) : List PageEffect :=
  match a.page with
  | .listens p => (p.update a.session a.settings (.card card .play)).2
  | .pins p => (p.update a.session a.settings (.card card .play)).2
  | .playlist p => (p.update a.session a.settings (.card card .play)).2
  | _ => []

section Runs
variable (a : App) (hs : List Happening) (e : Happening)

theorem after_concat : a.after (hs ++ [e]) = (a.after hs).turn e := by
  simp only [after, List.foldl_append, List.foldl_cons, List.foldl_nil]

theorem moments_concat : a.moments (hs ++ [e]) = a.moments hs ++ [a.after (hs ++ [e])] := by
  induction hs generalizing a with
  | nil => rfl
  | cons h hs ih => exact congrArg (a :: ·) (ih (a.turn h))

theorem firstShown?_nil (page card : Nat) :
    a.firstShown? [] page card = none.or (a.showing? page card) := by
  simp [firstShown?, moments]

theorem firstShown?_concat (page card : Nat) : a.firstShown? (hs ++ [e]) page card =
    (a.firstShown? hs page card).or ((a.after (hs ++ [e])).showing? page card) := by
  rw [firstShown?, moments_concat, List.findSome?_append]
  simp [firstShown?]

end Runs

/-! ## The play button -/

/-- The play button asks for the item the card was mounted with, unless the card is playing. -/
theorem pressPlay_eq {a : App} (h : a.page.Laid) {f : Face} (hf : f ∈ a.page.display.faces) :
    a.pressPlay f.number = if f.playing = true then [] else [.request f.own] := by
  unfold pressPlay
  cases hp : a.page with
  | listens p =>
    rw [hp] at h hf
    obtain ⟨c, hc, rfl⟩ := List.mem_map.1 hf
    exact Shelf.act_play (Shelf.Keyed.numbered h) hc a.session a.settings.removalGraceMs.toNat
      .deleteListen
  | pins p =>
    rw [hp] at h hf
    obtain ⟨c, hc, rfl⟩ := List.mem_map.1 hf
    exact Shelf.act_play (PinsPage.Laid.keyed h).numbered hc a.session
      a.settings.removalGraceMs.toNat (.deletePin p.user)
  | playlist p =>
    rw [hp] at h hf
    obtain ⟨c, hc, rfl⟩ := List.mem_map.1 hf
    exact Shelf.act_play (PlaylistPage.Laid.numbered h) hc a.session
      a.settings.removalGraceMs.toNat (p.removal c.serial)
  | nobody =>
    rw [hp] at hf
    exact absurd hf List.not_mem_nil
  | settings form =>
    rw [hp] at hf
    exact absurd hf List.not_mem_nil

/-! ## Turns -/

/-- The page is laid out, and no removal is overdue. -/
structure Sound (a : App) : Prop where
  laid : a.page.Laid
  waits : ∀ r ∈ a.page.removals, a.now < r.deadline

/-- **The cards after a turn**: another page was opened, whose cards play what they show; or the
same page is open, and its new cards do. -/
def Advances (a a' : App) : Prop :=
  a.opened < a'.opened ∧ (∀ f ∈ a'.page.display.faces, f.own = f.shown) ∨
    a'.opened = a.opened ∧ a.page.display.Follows a'.page.display

/-- What happens before anything that is due. -/
inductive Goes (a a' : App) : Prop where
  | opens (opened : a.opened < a'.opened) (fresh : a'.page.Fresh)
  | moves (opened : a'.opened = a.opened) (now : a'.now = a.now) (page : a.page.Moves a'.page)

section Goes
variable {a a' : App}

/-- **A turn ends with what is due.** If cards came, nothing is. -/
theorem Goes.settleTime (sound : a.Sound) (h : a.Goes a') :
    a'.settleTime.Sound ∧ a.Advances a'.settleTime := by
  -- while no removal of the page is overdue, what is due changes nothing
  have quiet (waits : ∀ r ∈ a'.page.removals, a'.now < r.deadline) :
      a'.settleTime.page = a'.page := elapsePage_quiet waits
  have settles (laid : a'.page.Laid) : a'.page.Settles a'.now a'.settleTime.page :=
    elapsePage_settles laid a'.now
  cases h with
  | opens opened fresh =>
    have same := quiet fun r hr => absurd (fresh.removals ▸ hr) List.not_mem_nil
    have settled := settles fresh.laid
    exact ⟨⟨settled.fades.laid, settled.waits⟩, .inl ⟨opened, by rw [same]; exact fresh.faces⟩⟩
  | moves opened now page =>
    cases page with
    | stays laid stays =>
      have settled := settles laid
      exact ⟨⟨settled.fades.laid, settled.waits⟩,
        .inr ⟨opened, (stays.trans settled.fades.stays).follows⟩⟩
    | brings laid follows removals =>
      have same := quiet fun r hr => now ▸ sound.waits r (removals r hr)
      have settled := settles laid
      exact ⟨⟨settled.fades.laid, settled.waits⟩, .inr ⟨opened, by rw [same]; exact follows⟩⟩

theorem applyAll_now (a : App) (owner : Owner) (effects : List PageEffect) :
    (a.applyAll owner effects).1.now = a.now := (a.applyAll_raises owner effects).1

theorem Goes.refl (h : a.page.Laid) : a.Goes a := .moves rfl rfl (.refl h)

theorem turnPage_goes {page page' : Page} (hp : a.page = page) (h : a.page.Laid)
    (moves : page.Laid → page.Moves page') (effects : List PageEffect) :
    a.Goes (a.turnPage page' effects).1 := by
  obtain ⟨same, opened⟩ := { a with page := page' }.applyAll_page (.page a.opened) effects
  refine .moves opened (applyAll_now ..) ?_
  rw [turnPage, same, hp]
  exact moves (hp ▸ h)

theorem turnDialog_goes (h : a.page.Laid) (t : PageTurn PinDialog) :
    a.Goes (a.turnDialog t).1 := by
  obtain ⟨same, opened⟩ := { a with dialog := t.1 }.applyAll_page .dialog t.2
  exact .moves opened (applyAll_now ..) (by rw [turnDialog, same]; exact .refl h)

theorem goes_of_settings {f f' : SettingsForm} (h : a.page = .settings f)
    (h' : a'.page = .settings f') (opened : a'.opened = a.opened) (now : a'.now = a.now) :
    a.Goes a' := by
  refine .moves opened now ?_
  rw [h, h']
  exact .stays trivial (.refl _)

end Goes

section Turn
variable {a : App}

theorem pageOf_fresh (a : App) (view : View) : (a.pageOf view).1.Fresh := by
  have blank {p : Page} (laid : p.Laid) (faces : p.display.faces = [])
      (removals : p.removals = []) : p.Fresh :=
    ⟨laid, fun _ hf => absurd (faces ▸ hf) List.not_mem_nil, removals⟩
  unfold pageOf
  cases view with
  | settings => exact blank trivial rfl rfl
  | playlist =>
    have shelf : (PlaylistPage.start a.settings).1.shelf = {} := PlaylistPage.load_shelf _ _
    exact blank (PlaylistPage.start_laid a.settings)
      (by simp only [Page.display, shelf]; rfl) (by simp only [Page.removals, shelf])
  | listens =>
    cases a.session.userName with
    | none => exact blank trivial rfl rfl
    | some user => exact blank Shelf.keyed_empty rfl rfl
  | pins =>
    cases a.session.userName with
    | none => exact blank trivial rfl rfl
    | some user =>
      refine Page.Fresh.of_moves (p := .nobody) rfl rfl
        (PinsPage.browse_laid Shelf.numbered_empty rfl rfl (by simp))
        (Shelf.arrange_follows_display Shelf.numbered_empty _)
        fun _ hr => Shelf.mem_of_mem_arrange_removals hr

theorem visit_goes (a : App) (view : View) : a.Goes (a.visit view).1 := by
  obtain ⟨same, opened⟩ :=
    { a with view, opened := a.opened + 1, page := (a.pageOf view).1 }.applyAll_page
      (.page (a.opened + 1)) (a.pageOf view).2
  refine .opens (Nat.lt_of_lt_of_eq (Nat.lt_succ_self _) opened.symm) ?_
  have page : (a.visit view).1.page = (a.pageOf view).1 := same
  rw [page]
  exact a.pageOf_fresh view

/-- **What the user does.** -/
theorem perform_goes (h : a.page.Laid) (m : Message) : a.Goes (a.perform m).1 := by
  cases m with
  | look view =>
    simp only [perform]
    split
    · exact .refl h
    · exact a.visit_goes view
  | dismiss alert => exact .moves rfl rfl (.refl h)
  | dialog m => exact turnDialog_goes h _
  | listens m =>
    simp only [perform]
    split
    · next p hp => exact turnPage_goes hp h (fun laid => ListensPage.update_moves laid _ _ m) _
    · exact .refl h
  | pins m =>
    simp only [perform]
    split
    · next p hp => exact turnPage_goes hp h (fun laid => PinsPage.update_moves laid _ _ m) _
    · exact .refl h
  | playlist m =>
    simp only [perform]
    split
    · next p hp => exact turnPage_goes hp h (fun laid => PlaylistPage.update_moves laid _ _ m) _
    · exact .refl h
  | settings m =>
    simp only [perform]
    split
    · next hp => exact goes_of_settings hp rfl rfl rfl
    · next f hp =>
      obtain ⟨page, opened⟩ := a.saveSettings_page f
      exact goes_of_settings hp page opened (a.saveSettings_raises f).1
    · next f hp =>
      obtain ⟨page, opened⟩ := a.signOut_page f
      exact goes_of_settings hp page opened (a.signOut_raises f).1
    · exact .refl h

theorem answerPage_goes (h : a.page.Laid) (errand : Errand)
    (reply : Except ServerError errand.call.Result) : a.Goes (a.answerPage errand reply).1 := by
  cases errand with
  | listens user count =>
    simp only [answerPage]
    split
    · next p hp =>
      exact turnPage_goes hp h (fun laid => ListensPage.listensCame_moves laid reply) _
    · exact .refl h
  | scores user listens =>
    simp only [answerPage]
    split
    · next p hp =>
      exact turnPage_goes hp h (fun laid => ListensPage.scoresCame_moves laid listens reply) _
    · exact .refl h
  | page request user offset count =>
    simp only [answerPage]
    split
    · next p hp =>
      exact turnPage_goes hp h (fun laid => PinsPage.pageCame_moves laid request reply) _
    · exact .refl h
  | playlist mbid =>
    simp only [answerPage]
    split
    · next p hp =>
      exact turnPage_goes hp h (fun laid => PlaylistPage.playlistCame_moves laid mbid reply) _
    · exact .refl h
  | change card item m grace =>
    simp only [answerPage]
    split
    · next p hp => exact turnPage_goes hp h (fun laid => ListensPage.changed_moves laid ..) _
    · next p hp => exact turnPage_goes hp h (fun laid => PinsPage.changed_moves laid ..) _
    · next p hp => exact turnPage_goes hp h (fun laid => PlaylistPage.changed_moves laid ..) _
    · exact .refl h

/-- **The reply to a call.** -/
theorem answer_goes (h : a.page.Laid) (c : Pending)
    (result : Except ServerError c.errand.call.Result) : a.Goes (a.answer c result).1 := by
  obtain ⟨owner, base, errand⟩ := c
  cases owner with
  | page number =>
    simp only [answer]
    split_ifs
    · exact answerPage_goes h errand result
    · exact .refl h
  | dialog =>
    cases errand with
    | change card item m grace => exact turnDialog_goes h _
    | _ => exact .refl h

/-- **After every turn** the page is laid out, and its new cards play what they show. -/
theorem turn_advances (h : a.Sound) (e : Happening) : (a.turn e).Sound ∧ a.Advances (a.turn e) := by
  cases e with
  | act m => exact (perform_goes h.laid m).settleTime h
  | reply c result => exact (answer_goes h.laid c result).settleTime h
  | pass ms =>
    have settled := elapsePage_settles h.laid (a.now + ms)
    exact ⟨⟨settled.fades.laid, settled.waits⟩, .inr ⟨rfl, settled.fades.stays.follows⟩⟩

end Turn

/-! ## What was shown first -/

/-- The number of a card was not given out yet. -/
def New (a : App) (page card : Nat) : Prop :=
  a.opened < page ∨ page = a.opened ∧ a.page.display.mounted ≤ card

/-- **The cards have the items** that were shown first. -/
structure Remembers (first : Nat → Nat → Option Item) (a : App) : Prop where
  new : ∀ page card, a.New page card → first page card = none
  own : ∀ f ∈ a.page.display.faces, first a.opened f.number = some f.own

section Remembers
variable {first : Nat → Nat → Option Item} {a a' : App}

theorem showing?_of_mem (h : a.page.Laid) {f : Face} (hf : f ∈ a.page.display.faces) :
    a.showing? a.opened f.number = some f.shown := by
  rw [showing?, if_pos rfl, h.numbered.find? hf]
  rfl

theorem New.showing? (h : a.page.Laid) {page card : Nat} (new : a.New page card) :
    a.showing? page card = none := by
  unfold App.showing?
  rcases new with lt | ⟨rfl, le⟩
  · exact if_neg (Nat.ne_of_lt lt)
  · rw [if_pos rfl, h.numbered.find?_eq_none le]
    rfl

theorem New.of_advances (h : a.Advances a') {page card : Nat} (new : a'.New page card) :
    a.New page card := by
  rcases h with ⟨opened, -⟩ | ⟨opened, follows⟩
  · rcases new with lt | ⟨rfl, -⟩
    · exact .inl (opened.trans lt)
    · exact .inl opened
  · rcases new with lt | ⟨rfl, le⟩
    · exact .inl (opened ▸ lt)
    · exact .inr ⟨opened, follows.mounted.trans le⟩

/-- **A turn**: what the new cards show is shown for the first time. -/
theorem Remembers.advance (h : a.Remembers first) (advances : a.Advances a') (laid : a'.page.Laid) :
    a'.Remembers fun page card => (first page card).or (a'.showing? page card) := by
  refine ⟨fun page card new => ?_, fun f hf => ?_⟩
  · rw [h.new page card (new.of_advances advances), new.showing? laid]
    rfl
  · -- a card that plays what it shows has not been seen before
    have fresh (new : a.New a'.opened f.number) (own : f.own = f.shown) :
        (first a'.opened f.number).or (a'.showing? a'.opened f.number) = some f.own := by
      rw [h.new _ _ new, showing?_of_mem laid hf, own]
      rfl
    rcases advances with ⟨opened, plays⟩ | ⟨opened, follows⟩
    · exact fresh (.inl opened) (plays f hf)
    · rcases follows.faces f hf with ⟨new, plays⟩ | ⟨g, hg, number, own⟩
      · exact fresh (.inr ⟨opened, new⟩) plays
      · rw [opened, ← number, h.own g hg, own]
        rfl

end Remembers

/-- **The application when it starts** has opened its first page. -/
theorem start_eq (home : String) (store : Store) :
    ∃ a : App, (start home store).1 = (a.visit .listens).1.settleTime ∧ a.page = .nobody :=
  ⟨_, rfl, rfl⟩

/-- **After every run** the cards have the items that they showed first. -/
theorem remembers_after (home : String) (store : Store) (hs : List Happening) :
    ((start home store).1.after hs).Sound ∧
      ((start home store).1.after hs).Remembers ((start home store).1.firstShown? hs) := by
  induction hs using List.reverseRecOn with
  | nil =>
    obtain ⟨a, start, page⟩ := start_eq home store
    have sound : a.Sound := by
      constructor <;> simp [page, Page.Laid, Page.removals]
    have nothing : a.Remembers fun _ _ => none :=
      ⟨fun _ _ _ => rfl, by simp [page, Page.display]⟩
    obtain ⟨sound', advances⟩ := (a.visit_goes .listens).settleTime sound
    have whole := nothing.advance advances sound'.laid
    rw [← start] at sound' whole
    simp only [← firstShown?_nil] at whole
    exact ⟨sound', whole⟩
  | append_singleton hs e ih =>
    obtain ⟨sound, remembers⟩ := ih
    obtain ⟨sound', advances⟩ := turn_advances sound e
    have whole := remembers.advance advances sound'.laid
    rw [← after_concat] at sound' whole
    simp only [← firstShown?_concat] at whole
    exact ⟨sound', whole⟩

end App

/-! ## The application at work -/

namespace Live

/-- The calls of a turn are happenings, if they are settled without a request. -/
theorem dispatch_after (fuel : Nat) (l : Live) (calls : List Pending) :
    ∃ hs, (dispatch fuel l calls).app = l.app.after hs := by
  induction fuel generalizing l calls with
  | zero => exact ⟨[], rfl⟩
  | succ fuel ih =>
    cases calls with
    | nil => exact ⟨[], rfl⟩
    | cons c rest =>
      simp only [dispatch]
      split
      · exact ih _ rest
      · next result _ =>
        obtain ⟨hs, after⟩ := ih { l with app := (l.app.receive c result).1 }
          (rest ++ (l.app.receive c result).2)
        exact ⟨.reply c result :: hs, after⟩

theorem step_after (l : Live) (e : Event) : ∃ hs, (l.step e).app = l.app.after hs := by
  cases e with
  | act m =>
    obtain ⟨hs, after⟩ := dispatch_after maxCalls { l with app := (l.app.update m).1 }
      (l.app.update m).2
    exact ⟨.act m :: hs, after⟩
  | reply number reply =>
    simp only [step, settle]
    split
    · exact ⟨[], rfl⟩
    · next s _ =>
      obtain ⟨hs, after⟩ := dispatch_after maxCalls
        { l with
          waiting := l.waiting.filter (·.number ≠ number)
          app := (l.app.receive s.call (s.call.errand.call.settle s.request reply)).1 }
        (l.app.receive s.call (s.call.errand.call.settle s.request reply)).2
      exact ⟨.reply s.call (s.call.errand.call.settle s.request reply) :: hs, after⟩
  | pass ms => exact ⟨[.pass ms], rfl⟩

/-- **The application at work** only ever comes to where some happenings lead. -/
theorem run_after (home : String) (store : Store) (es : List Event) :
    ∃ hs, ((start home store).run es).app = (App.start home store).1.after hs := by
  induction es using List.reverseRecOn with
  | nil => exact dispatch_after maxCalls { app := (App.start home store).1 } _
  | append_singleton es e ih =>
    obtain ⟨hs, after⟩ := ih
    obtain ⟨more, step⟩ := ((start home store).run es).step_after e
    refine ⟨hs ++ more, ?_⟩
    rw [run, List.foldl_append, App.after, List.foldl_append]
    exact step.trans (congrArg (App.after · more) after)

end Live

namespace App

/-! ## What cards play -/

/-- **A card plays the item it showed first.** Whatever happens, a press of the play button of a
card that is there and not playing asks for the item that the card showed when it was there for the
first time; so it asks for what the card shows now exactly if that is the same item. -/
theorem plays_first_shown (home : String) (store : Store) (hs : List Happening) :
    let first := (start home store).1
    let a := first.after hs
    ∀ f ∈ a.page.display.faces, f.playing = false → ∃ item,
      first.firstShown? hs a.opened f.number = some item ∧
      a.pressPlay f.number = [.request item] ∧
      (a.pressPlay f.number = [.request f.shown] ↔ item = f.shown) := by
  intro first a f hf playing
  obtain ⟨sound, remembers⟩ := remembers_after home store hs
  have press : a.pressPlay f.number = [.request f.own] := by
    rw [pressPlay_eq sound.laid hf, if_neg (by simp [playing])]
  refine ⟨f.own, remembers.own f hf, press, ?_⟩
  rw [press]
  simp

/-- The playlist is opened, and comes with some tracks. -/
def opening (tracks : List PlaylistTrack) : List Happening :=
  [.act (.playlist .submit),
    .reply ⟨.page 2, "", .playlist "pl"⟩ (.ok { mbid := "pl", tracks })]

/-- A playlist gets another track at its front: the card of the old one plays it still, and shows
it. -/
theorem plays_first_shown_of_new_track :
    let one : PlaylistTrack := { id := "a", title := "One" }
    let two : PlaylistTrack := { id := "b", title := "Two" }
    let look : List Happening := [.act (.look .playlist), .act (.playlist (.type "pl"))]
    let hs := look ++ opening [one] ++ opening [two, one]
    let a := (start "" .fresh).1.after hs
    let f : Face := { number := 0, own := .track one, shown := .track one, playing := false }
    f ∈ a.page.display.faces ∧ f.playing = false ∧ a.pressPlay 0 = [.request (.track one)] := by
  intro one two look hs a f
  have there : f ∈ a.page.display.faces := by decide +kernel
  obtain ⟨item, first, -, shown⟩ := plays_first_shown "" .fresh hs f there rfl
  refine ⟨there, rfl, shown.2 ?_⟩
  have once : (start "" .fresh).1.firstShown? hs a.opened 0 = some (.track one) := by decide +kernel
  exact Option.some.inj (first.symm.trans once)

/-- **A card plays another track than it shows.** A playlist is opened again when its first track
was replaced by another one of the same recording: the card of the first track stays, shows the new
one and plays the old one. -/
theorem plays_other_track :
    let one : PlaylistTrack := { id := "a", title := "One" }
    let two : PlaylistTrack := { id := "a", title := "Two" }
    let look : List Happening := [.act (.look .playlist), .act (.playlist (.type "pl"))]
    let a := (start "" .fresh).1.after (look ++ opening [one, two] ++ opening [two, two])
    let f : Face := { number := 0, own := .track one, shown := .track two, playing := false }
    f ∈ a.page.display.faces ∧ f.playing = false ∧ a.pressPlay f.number ≠ [.request f.shown] ∧
      a.pressPlay f.number = [.request (.track one)] := by
  decide +kernel

end App

end ListenDeck
