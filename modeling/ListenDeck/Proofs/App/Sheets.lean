import ListenDeck.Proofs.App.Calls
import ListenDeck.Proofs.Cards.Scores
import ListenDeck.Proofs.Playlist.Turns

/-!
# Scores in the application

What becomes of the scores of the cards on the page that is open. A page that is opened has a number
of its own; while it is open, nothing but the replies to its own calls for feedback changes a score.

* `Page.sheet`: the cards of a page with the scores they show.
* `App.Follows`: the application comes after another one: another page was opened, or the same page
  is open and its sheet follows.
* `Pending.verdicts`: the score that the result of a call gives to its card.
* `App.update_follows`, `App.receive_follows`, `App.pass_follows`: what users, replies and time do.
-/

namespace ListenDeck

/-- The cards of a page with the scores they show. -/
def Page.sheet : Page → ScoreSheet
  | .listens p => p.shelf.sheet
  | .pins p => p.shelf.sheet
  | .playlist p => p.shelf.sheet
  | .nobody => {}
  | .settings _ => {}

theorem ScoreSheet.numbered_empty : ({} : ScoreSheet).Numbered :=
  ⟨List.nodup_nil, fun _ h => absurd h List.not_mem_nil⟩

theorem Shelf.numbered_empty {κ : Type} : ({} : Shelf κ).Numbered :=
  ⟨List.nodup_nil, fun _ h => absurd h List.not_mem_nil⟩

/-! ## Pages -/

section Pages
variable (session : Session) (settings : Settings)

theorem ListensPage.update_follows {p : ListensPage} (h : p.shelf.Numbered)
    (m : ListensPage.Message) :
    p.shelf.sheet.Follows (p.update session settings m).1.shelf.sheet [] := by
  cases m with
  | refresh => exact Shelf.follows_of_same h rfl rfl
  | card serial m => exact Shelf.act_follows h session _ _ serial m

theorem PinsPage.browse_follows {p : PinsPage} (h : p.shelf.Numbered) (e : Browser.Event) :
    p.shelf.sheet.Follows (p.browse e).1.shelf.sheet [] :=
  Shelf.arrange_follows h _

theorem PinsPage.update_follows {p : PinsPage} (h : p.shelf.Numbered) (m : PinsPage.Message) :
    p.shelf.sheet.Follows (p.update session settings m).1.shelf.sheet [] := by
  cases m with
  | older => exact PinsPage.browse_follows h .older
  | newer => exact PinsPage.browse_follows h .newer
  | card serial m => exact Shelf.act_follows h session _ _ serial m

theorem PlaylistPage.load_shelf (p : PlaylistPage) (text : String) :
    (p.load text).1.shelf = p.shelf := by
  rcases p.load_cases text with h | ⟨-, h⟩ <;> rw [h]

theorem PlaylistPage.update_follows {p : PlaylistPage} (h : p.shelf.Numbered)
    (m : PlaylistPage.Message) :
    p.shelf.sheet.Follows (p.update session settings m).1.shelf.sheet [] := by
  have hrefl := ScoreSheet.Follows.refl (Shelf.sheet_numbered.mpr h)
  have hact := fun serial => Shelf.act_follows h session settings.removalGraceMs.toNat
    (p.removal serial) serial
  cases m with
  | type text => exact hrefl
  | submit =>
    simp only [update, PlaylistPage.load_shelf]
    exact hrefl
  | card serial m =>
    cases m with
    | delete =>
      simp only [update, remove]
      split
      · exact hrefl
      · exact hact serial .delete
    | play => exact hact serial .play
    | rate requested => exact hact serial (.rate requested)
    | recommend => exact hact serial .recommend
    | pin => exact hact serial .pin

end Pages

/-! ### Time -/

section Elapse
variable (now : Nat)

theorem foldl_follows {σ α : Type} (sheet : σ → ScoreSheet) {f : σ → α → σ}
    (hf : ∀ p a, (sheet p).Numbered → (sheet p).Follows (sheet (f p a)) []) (l : List α) {p : σ}
    (h : (sheet p).Numbered) : (sheet p).Follows (sheet (l.foldl f p)) [] := by
  induction l generalizing p with
  | nil => exact .refl h
  | cons a l ih => exact (hf p a h).trans (ih (hf p a h).numbered)

theorem ListensPage.elapse_follows {p : ListensPage} (h : p.shelf.Numbered) :
    p.shelf.sheet.Follows (p.elapse now).shelf.sheet [] := by
  have hs : p.shelf.sheet.Numbered := Shelf.sheet_numbered.mpr h
  refine foldl_follows (fun p : ListensPage => p.shelf.sheet) (fun p r hp => ?_)
    (p.shelf.due now).1 (p := { p with shelf := (p.shelf.due now).2 }) hs
  split_ifs
  · exact Shelf.arrange_follows (Shelf.sheet_numbered.mp hp) _
  · exact .refl hp

theorem PinsPage.elapse_follows {p : PinsPage} (h : p.shelf.Numbered) :
    p.shelf.sheet.Follows (p.elapse now).shelf.sheet [] := by
  have hs : p.shelf.sheet.Numbered := Shelf.sheet_numbered.mpr h
  refine foldl_follows (fun p : PinsPage => p.shelf.sheet) (fun p r hp => ?_)
    (p.shelf.due now).1 (p := { p with shelf := (p.shelf.due now).2 }) hs
  split_ifs
  · exact PinsPage.browse_follows (Shelf.sheet_numbered.mp hp) _
  · exact .refl hp

theorem PlaylistPage.elapse_follows {p : PlaylistPage} (h : p.shelf.Numbered) :
    p.shelf.sheet.Follows (p.elapse now).shelf.sheet [] := by
  have hs : p.shelf.sheet.Numbered := Shelf.sheet_numbered.mpr h
  refine foldl_follows (fun p : PlaylistPage => p.shelf.sheet) (fun p r hp => ?_)
    (p.shelf.due now).1 (p := { p with shelf := (p.shelf.due now).2 }) hs
  split_ifs
  · exact Shelf.arrange_follows (Shelf.sheet_numbered.mp hp) _
  · exact .refl hp

end Elapse

/-! ### Replies -/

section Replies
variable (now serial : Nat) (item : Item) (m : Mutation) (grace : Nat)
  (reply : Except ServerError Nat)

theorem ListensPage.changed_follows {p : ListensPage} (h : p.shelf.Numbered) :
    p.shelf.sheet.Follows (p.changed now serial item m grace reply).1.shelf.sheet
      (Shelf.verdicts serial (settle item m reply)) := by
  unfold ListensPage.changed
  split
  · next hr => exact Shelf.receive_absent h hr _
  · next hr => exact (Shelf.receive_follows h hr).2

theorem PinsPage.changed_follows {p : PinsPage} (h : p.shelf.Numbered) :
    p.shelf.sheet.Follows (p.changed now serial item m grace reply).1.shelf.sheet
      (Shelf.verdicts serial (settle item m reply)) := by
  unfold PinsPage.changed
  split
  · next hr => exact Shelf.receive_absent h hr _
  · next hr => exact (Shelf.receive_follows h hr).2

theorem PlaylistPage.changed_follows {p : PlaylistPage} (h : p.shelf.Numbered) :
    p.shelf.sheet.Follows (p.changed now serial item m grace reply).1.shelf.sheet
      (Shelf.verdicts serial (settle item m reply)) := by
  unfold PlaylistPage.changed
  split
  · next hr => exact Shelf.receive_absent h hr _
  · next hr => exact (Shelf.receive_follows h hr).2

theorem PlaylistPage.playlistCame_follows {p : PlaylistPage} (h : p.shelf.Numbered) (mbid : String)
    (reply : Except ServerError Playlist) :
    p.shelf.sheet.Follows (p.playlistCame mbid reply).1.shelf.sheet [] := by
  cases reply with
  | ok playlist => exact Shelf.arrange_follows h _
  | error e => exact Shelf.follows_of_same h rfl rfl

theorem ListensPage.listensCame_follows {p : ListensPage} (h : p.shelf.Numbered)
    (reply : Except ServerError (List Listen)) :
    p.shelf.sheet.Follows (p.listensCame reply).1.shelf.sheet [] := by
  cases reply with
  | ok listens => exact Shelf.follows_of_same h rfl rfl
  | error e => exact Shelf.follows_of_same h rfl rfl

end Replies

/-! ## The application -/

/-- The score that the result of a call gives to its card. -/
def Pending.verdicts (c : Pending) (result : Except ServerError c.errand.call.Result) :
    List (Nat × Score) :=
  match c, result with
  | ⟨_, _, .change card item m _⟩, result => Shelf.verdicts card (settle item m result)
  | _, _ => []

namespace App

/-- **The application comes after another one**: a page was opened since then, or the same page is
open and its scores follow. -/
def Follows (a a' : App) (verdicts : List (Nat × Score)) : Prop :=
  a.opened < a'.opened ∧ a'.page.sheet.Numbered ∨
    a'.opened = a.opened ∧ a.page.sheet.Follows a'.page.sheet verdicts

section Follows
variable {a a' a'' : App} {vs ws : List (Nat × Score)}

theorem Follows.refl (h : a.page.sheet.Numbered) : a.Follows a [] := .inr ⟨rfl, .refl h⟩

theorem Follows.numbered (h : a.Follows a' vs) : a'.page.sheet.Numbered := by
  rcases h with ⟨-, h⟩ | ⟨-, h⟩
  · exact h
  · exact h.numbered

/-- Once another page was opened, what was said of the first one does not matter. -/
theorem Follows.of_opened (h : a.opened < a'.opened) (h' : a'.Follows a'' ws)
    (vs : List (Nat × Score)) : a.Follows a'' vs := by
  refine .inl ⟨?_, h'.numbered⟩
  rcases h' with ⟨hlt, -⟩ | ⟨heq, -⟩
  · exact Nat.lt_trans h hlt
  · exact heq ▸ h

theorem Follows.trans (h : a.Follows a' vs) (h' : a'.Follows a'' ws) :
    a.Follows a'' (vs ++ ws) := by
  rcases h with ⟨hlt, -⟩ | ⟨heq, hf⟩
  · exact h'.of_opened hlt _
  · rcases h' with ⟨hlt', hn⟩ | ⟨heq', hf'⟩
    · exact .inl ⟨heq ▸ hlt', hn⟩
    · exact .inr ⟨heq'.trans heq, hf.trans hf'⟩

end Follows

variable (a : App)

theorem applyAll_page (owner : Owner) (effects : List PageEffect) :
    (a.applyAll owner effects).1.page = a.page ∧
      (a.applyAll owner effects).1.opened = a.opened := by
  have hfold : ∀ t : Turn, (effects.foldl (apply owner) t).1.page = t.1.page ∧
      (effects.foldl (apply owner) t).1.opened = t.1.opened := by
    induction effects with
    | nil => exact fun t => ⟨rfl, rfl⟩
    | cons e effects ih =>
      intro t
      have hstep : (apply owner t e).1.page = t.1.page ∧
          (apply owner t e).1.opened = t.1.opened := by
        cases e with
        | remember mbid =>
          simp only [apply, remember]
          split <;> exact ⟨rfl, rfl⟩
        | _ => exact ⟨rfl, rfl⟩
      exact ⟨(ih _).1.trans hstep.1, (ih _).2.trans hstep.2⟩
  exact hfold (a, [])

theorem turnPage_follows {page : Page} (effects : List PageEffect) {vs : List (Nat × Score)}
    (h : a.page.sheet.Follows page.sheet vs) : a.Follows (a.turnPage page effects).1 vs := by
  obtain ⟨hpage, hopened⟩ := { a with page }.applyAll_page (.page a.opened) effects
  exact .inr ⟨hopened, by rw [turnPage, hpage]; exact h⟩

theorem turnPage_of_shelf {κ : Type} {shelf : Shelf κ} {page : Page} {vs : List (Nat × Score)}
    (hpage : a.page.sheet = shelf.sheet) (h : a.page.sheet.Numbered)
    (hf : shelf.Numbered → shelf.sheet.Follows page.sheet vs) (effects : List PageEffect) :
    a.Follows (a.turnPage page effects).1 vs := by
  refine a.turnPage_follows effects ?_
  rw [hpage] at h ⊢
  exact hf (Shelf.sheet_numbered.mp h)

theorem turnDialog_follows (h : a.page.sheet.Numbered) (t : PageTurn PinDialog) :
    a.Follows (a.turnDialog t).1 [] := by
  obtain ⟨hpage, hopened⟩ := { a with dialog := t.1 }.applyAll_page .dialog t.2
  exact .inr ⟨hopened, by rw [turnDialog, hpage]; exact .refl h⟩

theorem keepLoudly_page (settings : Settings) :
    (a.keepLoudly settings).page = a.page ∧ (a.keepLoudly settings).opened = a.opened :=
  ⟨rfl, rfl⟩

theorem saveSettings_page (f : SettingsForm) :
    (a.saveSettings f).page = .settings (f.saved (f.settings a.settings)) ∧
      (a.saveSettings f).opened = a.opened := keepLoudly_page _ _

theorem signOut_page (f : SettingsForm) :
    (a.signOut f).page = .settings f.signedOut ∧ (a.signOut f).opened = a.opened :=
  keepLoudly_page _ _

theorem follows_of_settings {a a' : App} {f f' : SettingsForm} (h : a.page = .settings f)
    (h' : a'.page = .settings f') (hopened : a'.opened = a.opened) : a.Follows a' [] := by
  refine .inr ⟨hopened, ?_⟩
  rw [h, h']
  exact .refl ScoreSheet.numbered_empty

/-! ### Time -/

/-- **Time** changes no score. -/
theorem settleTime_follows (h : a.page.sheet.Numbered) : a.Follows a.settleTime [] := by
  refine .inr ⟨rfl, ?_⟩
  unfold settleTime
  cases hp : a.page with
  | nobody => exact .refl ScoreSheet.numbered_empty
  | settings f => exact .refl ScoreSheet.numbered_empty
  | listens p =>
    rw [hp] at h
    exact ListensPage.elapse_follows _ (Shelf.sheet_numbered.mp h)
  | pins p =>
    rw [hp] at h
    exact PinsPage.elapse_follows _ (Shelf.sheet_numbered.mp h)
  | playlist p =>
    rw [hp] at h
    exact PlaylistPage.elapse_follows _ (Shelf.sheet_numbered.mp h)

theorem pass_follows (h : a.page.sheet.Numbered) (ms : Nat) : a.Follows (a.pass ms) [] :=
  settleTime_follows { a with now := a.now + ms } h

/-! ### The user -/

theorem pageOf_numbered (view : View) : (a.pageOf view).1.sheet.Numbered := by
  unfold pageOf
  cases view with
  | settings => exact ScoreSheet.numbered_empty
  | playlist =>
    have hshelf : (PlaylistPage.start a.settings).1.shelf = {} := PlaylistPage.load_shelf _ _
    simp only [Page.sheet, hshelf]
    exact Shelf.sheet_numbered.mpr Shelf.numbered_empty
  | listens =>
    cases a.session.userName with
    | none => exact ScoreSheet.numbered_empty
    | some user => exact Shelf.sheet_numbered.mpr Shelf.numbered_empty
  | pins =>
    cases a.session.userName with
    | none => exact ScoreSheet.numbered_empty
    | some user => exact (PinsPage.browse_follows Shelf.numbered_empty .open).numbered

theorem visit_follows (view : View) : a.Follows (a.visit view).1 [] := by
  obtain ⟨hpage, hopened⟩ :=
    { a with view, opened := a.opened + 1, page := (a.pageOf view).1 }.applyAll_page
      (.page (a.opened + 1)) (a.pageOf view).2
  have hsheet : (a.visit view).1.page.sheet = (a.pageOf view).1.sheet := congrArg Page.sheet hpage
  refine .inl ⟨Nat.lt_of_lt_of_eq (Nat.lt_succ_self _) hopened.symm, ?_⟩
  rw [hsheet]
  exact a.pageOf_numbered view

/-- **What the user does** changes no score. -/
theorem update_follows (h : a.page.sheet.Numbered) (m : Message) :
    a.Follows (a.update m).1 [] := by
  have hperform : a.Follows (a.perform m).1 [] := by
    cases m with
    | look view =>
      simp only [perform]
      split
      · exact .refl h
      · exact a.visit_follows view
    | dismiss alert => exact .inr ⟨rfl, .refl h⟩
    | listens m =>
      simp only [perform]
      split
      · next p hp =>
        refine a.turnPage_of_shelf (congrArg Page.sheet hp) h (fun hn => ?_) _
        exact ListensPage.update_follows _ _ hn m
      · exact .refl h
    | pins m =>
      simp only [perform]
      split
      · next p hp =>
        refine a.turnPage_of_shelf (congrArg Page.sheet hp) h (fun hn => ?_) _
        exact PinsPage.update_follows _ _ hn m
      · exact .refl h
    | playlist m =>
      simp only [perform]
      split
      · next p hp =>
        refine a.turnPage_of_shelf (congrArg Page.sheet hp) h (fun hn => ?_) _
        exact PlaylistPage.update_follows _ _ hn m
      · exact .refl h
    | settings m =>
      simp only [perform]
      split
      · next hp => exact follows_of_settings hp rfl rfl
      · next f hp =>
        obtain ⟨hpage, hopened⟩ := a.saveSettings_page f
        exact follows_of_settings hp hpage hopened
      · next f hp =>
        obtain ⟨hpage, hopened⟩ := a.signOut_page f
        exact follows_of_settings hp hpage hopened
      · exact .refl h
    | dialog m => exact a.turnDialog_follows h _
  exact hperform.trans (settleTime_follows _ hperform.numbered)

/-! ### Replies -/

/-- The scores that the result of a call gives to cards of the page that is open. -/
def verdicts (c : Pending) (result : Except ServerError c.errand.call.Result) :
    List (Nat × Score) := if c.owner = .page a.opened then c.verdicts result else []

theorem answerPage_follows (h : a.page.sheet.Numbered) (owner : Owner) (base : String)
    (errand : Errand) (reply : Except ServerError errand.call.Result) :
    a.Follows (a.answerPage errand reply).1 (Pending.verdicts ⟨owner, base, errand⟩ reply) := by
  cases errand with
  | listens user count =>
    simp only [answerPage]
    split
    · next p hp =>
      refine a.turnPage_of_shelf (congrArg Page.sheet hp) h (fun hn => ?_) _
      exact ListensPage.listensCame_follows hn reply
    · exact .refl h
  | scores user listens =>
    simp only [answerPage]
    split
    · next p hp =>
      refine a.turnPage_of_shelf (congrArg Page.sheet hp) h (fun hn => ?_) _
      exact Shelf.arrange_follows hn _
    · exact .refl h
  | page request user offset count =>
    simp only [answerPage]
    split
    · next p hp =>
      refine a.turnPage_of_shelf (congrArg Page.sheet hp) h (fun hn => ?_) _
      exact PinsPage.browse_follows hn _
    · exact .refl h
  | playlist mbid =>
    simp only [answerPage]
    split
    · next p hp =>
      refine a.turnPage_of_shelf (congrArg Page.sheet hp) h (fun hn => ?_) _
      exact PlaylistPage.playlistCame_follows hn mbid reply
    · exact .refl h
  | change card item m grace =>
    simp only [answerPage]
    split
    · next p hp =>
      refine a.turnPage_of_shelf (congrArg Page.sheet hp) h (fun hn => ?_) _
      exact ListensPage.changed_follows _ card item m grace reply hn
    · next p hp =>
      refine a.turnPage_of_shelf (congrArg Page.sheet hp) h (fun hn => ?_) _
      exact PinsPage.changed_follows _ card item m grace reply hn
    · next p hp =>
      refine a.turnPage_of_shelf (congrArg Page.sheet hp) h (fun hn => ?_) _
      exact PlaylistPage.changed_follows _ card item m grace reply hn
    · next hl hp hq =>
      have hblank : a.page.sheet = {} := by
        cases hpage : a.page with
        | listens p => exact absurd hpage (hl p)
        | pins p => exact absurd hpage (hp p)
        | playlist p => exact absurd hpage (hq p)
        | _ => rfl
      refine .inr ⟨rfl, ?_⟩
      rw [hblank]
      exact ⟨Nat.le_refl _, fun p hmem => absurd hmem List.not_mem_nil, ScoreSheet.numbered_empty⟩

/-- **A reply** changes the score of the card it is about, if it is about a score and the card's
page is open. -/
theorem receive_follows (h : a.page.sheet.Numbered) (c : Pending)
    (result : Except ServerError c.errand.call.Result) :
    a.Follows (a.receive c result).1 (a.verdicts c result) := by
  have hanswer : a.Follows (a.answer c result).1 (a.verdicts c result) := by
    obtain ⟨owner, base, errand⟩ := c
    cases owner with
    | page number =>
      simp only [answer, verdicts, Owner.page.injEq]
      split_ifs
      · exact a.answerPage_follows h _ base errand result
      · exact .refl h
    | dialog =>
      have hnone : a.verdicts ⟨.dialog, base, errand⟩ result = [] := if_neg (by simp)
      rw [hnone]
      cases errand with
      | change card item m grace => exact a.turnDialog_follows h _
      | _ => exact .refl h
  have hall := hanswer.trans (settleTime_follows _ hanswer.numbered)
  rwa [List.append_nil] at hall

theorem verdicts_of_unsent {c : Pending} {result : Except ServerError c.errand.call.Result}
    (h : c.errand.call.send c.base = .unsent result) : a.verdicts c result = [] := by
  unfold verdicts
  split_ifs
  · obtain ⟨owner, base, errand⟩ := c
    cases errand with
    | change card item m grace =>
      rcases Call.of_unsent h with ⟨e, rfl⟩ | ⟨user, hc⟩
      · rfl
      · cases hc
    | _ => rfl
  · rfl

end App

end ListenDeck
