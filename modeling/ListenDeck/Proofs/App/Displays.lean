import ListenDeck.Proofs.App.Sheets
import ListenDeck.Proofs.Browse.Observed
import ListenDeck.Proofs.Cards.Faces
import ListenDeck.Proofs.Listens.Deleting
import ListenDeck.Proofs.Playlist.Runs

/-!
# The cards of the page that is open

What happens to a page either brings no card, or brings cards that play what they show and leaves
only removals that waited before. When the grace of a removal is over, no card comes: what is left
of the list has no key that was not there.

* `Page.display`, `Page.removals`: the cards of a page, and the removals that wait.
* `Page.Laid`: the cards have the keys of the list, and numbers of their own.
* `Page.Moves`: what happens to a page, in a lemma for each thing that can happen.
* `Page.Fades`, `elapsePage_fades`, `elapsePage_quiet`: what time does to it.
-/

namespace ListenDeck

/-! ## Removals that are due -/

namespace Shelf

section Due
variable {κ : Type} {s : Shelf κ} {now : Nat}

theorem Keyed.due {keys : List κ} (h : s.Keyed keys) (now : Nat) : (s.due now).2.Keyed keys :=
  ⟨h.keys, h.numbered.nodup, h.numbered.lt⟩

theorem mem_of_mem_due_removals {r : CardRemoval} (h : r ∈ (s.due now).2.removals) :
    r ∈ s.removals := List.mem_of_mem_filter h

theorem lt_of_mem_due_removals {r : CardRemoval} (h : r ∈ (s.due now).2.removals) :
    now < r.deadline := by
  simpa using (List.mem_filter.1 h).2

theorem due_of_quiet (h : ∀ r ∈ s.removals, now < r.deadline) : s.due now = ([], s) := by
  have none_due : s.removals.filter (·.deadline ≤ now) = [] := by
    simpa [List.filter_eq_nil_iff] using h
  have all_wait : s.removals.filter (now < ·.deadline) = s.removals := by
    simpa [List.filter_eq_self] using h
  simp only [due, none_due, all_wait, List.mergeSort_nil]

end Due

end Shelf

/-! ## Pages -/

/-- The cards of a page. -/
def Page.display : Page → Display
  | .listens p => p.shelf.display
  | .pins p => p.shelf.display
  | .playlist p => p.shelf.display
  | .nobody => {}
  | .settings _ => {}

/-- The removals of a page that wait for their grace. -/
def Page.removals : Page → List CardRemoval
  | .listens p => p.shelf.removals
  | .pins p => p.shelf.removals
  | .playlist p => p.shelf.removals
  | .nobody => []
  | .settings _ => []

/-- The cards have the keys of the listens. -/
def ListensPage.Laid (p : ListensPage) : Prop := p.shelf.Keyed (p.items.map Item.identity)

/-- The cards have the keys of the pins, which are those of the pager. -/
structure PinsPage.Laid (p : PinsPage) : Prop where
  keyed : p.shelf.Keyed (p.told.items.map Item.identity)
  observed : p.browser.pager.observed = true
  told : p.told = p.browser.pager.state

/-- **The cards of a page** have the keys of its list, and numbers of their own. -/
def Page.Laid : Page → Prop
  | .listens p => p.Laid
  | .pins p => p.Laid
  | .playlist p => p.Laid
  | .nobody => True
  | .settings _ => True

namespace Page

/-- **No card comes, and no removal**, while cards and removals may go. -/
structure Fades (p p' : Page) : Prop where
  laid : p'.Laid
  stays : p.display.Stays p'.display
  removals : ∀ r ∈ p'.removals, r ∈ p.removals

theorem Fades.refl {p : Page} (h : p.Laid) : p.Fades p := ⟨h, .refl _, fun _ hr => hr⟩

theorem Fades.trans {p p' p'' : Page} (h : p.Fades p') (h' : p'.Fades p'') : p.Fades p'' :=
  ⟨h'.laid, h.stays.trans h'.stays, fun r hr => h.removals r (h'.removals r hr)⟩

theorem foldl_fades {σ α : Type} (page : σ → Page) {f : σ → α → σ}
    (hf : ∀ p a, (page p).Laid → (page p).Fades (page (f p a))) (l : List α) {p : σ}
    (h : (page p).Laid) : (page p).Fades (page (l.foldl f p)) := by
  induction l generalizing p with
  | nil => exact .refl h
  | cons a l ih => exact (hf p a h).trans (ih (hf p a h).laid)

/-- **What happens to a page**: no card comes, though a removal may; or cards come that play what
they show, and no removal. -/
inductive Moves (p p' : Page) : Prop where
  | stays (laid : p'.Laid) (h : p.display.Stays p'.display)
  | brings (laid : p'.Laid) (h : p.display.Follows p'.display)
      (removals : ∀ r ∈ p'.removals, r ∈ p.removals)

theorem Moves.refl {p : Page} (h : p.Laid) : p.Moves p := .stays h (.refl _)

/-- **What is due leaves the page**: no card comes, and what waits still has time. -/
structure Settles (now : Nat) (p p' : Page) : Prop where
  fades : p.Fades p'
  waits : ∀ r ∈ p'.removals, now < r.deadline

/-- When all that is due is taken from what waits, the rest settles. -/
theorem Fades.settles {now : Nat} {p p' p'' : Page} (h : p.Fades p')
    (waits : ∀ r ∈ p'.removals, now < r.deadline) (h' : p'.Fades p'') : p.Settles now p'' :=
  ⟨h.trans h', fun r hr => waits r (h'.removals r hr)⟩

end Page

/-! ## Recent listens -/

namespace ListensPage

variable {p : ListensPage} (h : p.Laid)

theorem wanted_keys (p : ListensPage) : p.wanted.map (·.key) = p.items.map Item.identity := by
  simp [wanted]

theorem arranged_laid (h : p.shelf.Numbered) : p.arranged.Laid := by
  have keyed := Shelf.arrange_keyed h p.wanted
  rwa [wanted_keys] at keyed

include h

theorem update_moves (session : Session) (settings : Settings) (m : Message) :
    (Page.listens p).Moves (.listens (p.update session settings m).1) := by
  cases m with
  | refresh => exact .stays h (.refl _)
  | card serial m => exact .stays (Shelf.Keyed.act h ..) (p.shelf.act_stays ..)

theorem listensCame_moves (reply : Except ServerError (List Listen)) :
    (Page.listens p).Moves (.listens (p.listensCame reply).1) := by
  cases reply with
  | ok listens => exact .stays h (.refl _)
  | error e => exact .stays h (.refl _)

theorem scoresCame_moves (listens : List Listen) (reply : Except ServerError Scores) :
    (Page.listens p).Moves (.listens (p.scoresCame listens reply).1) :=
  .brings (arranged_laid h.numbered) (Shelf.arrange_follows_display h.numbered _)
    fun _ hr => Shelf.mem_of_mem_arrange_removals hr

theorem changed_moves (now serial : Nat) (item : Item) (m : Mutation) (grace : Nat)
    (reply : Except ServerError Nat) :
    (Page.listens p).Moves (.listens (p.changed now serial item m grace reply).1) := by
  unfold changed
  split
  · exact .refl h
  · next received => exact .stays (Shelf.Keyed.receive h received) (Shelf.receive_stays received)

theorem without_fades (identity : Identity) :
    (Page.listens p).Fades (.listens (p.without identity)) := by
  refine ⟨arranged_laid h.numbered, Shelf.arrange_stays ?_,
    fun _ hr => Shelf.mem_of_mem_arrange_removals hr⟩
  rw [wanted_keys, Shelf.Keyed.keys h]
  exact (List.filter_sublist.map _).subperm

theorem elapse_settles (now : Nat) :
    (Page.listens p).Settles now (.listens (p.elapse now)) := by
  have first : (Page.listens p).Fades (.listens { p with shelf := (p.shelf.due now).2 }) :=
    ⟨Shelf.Keyed.due h now, .refl _, fun _ hr => Shelf.mem_of_mem_due_removals hr⟩
  refine first.settles (fun _ hr => Shelf.lt_of_mem_due_removals hr)
    (Page.foldl_fades .listens (fun p r hp => ?_) _ first.laid)
  split_ifs
  · exact without_fades hp _
  · exact .refl hp

omit h in
theorem elapse_quiet {now : Nat} (quiet : ∀ r ∈ p.shelf.removals, now < r.deadline) :
    p.elapse now = p := by
  rw [elapse, Shelf.due_of_quiet quiet]
  rfl

end ListensPage

/-! ## Pins -/

namespace PinsPage

variable {p : PinsPage} (h : p.Laid)

theorem wanted_keys (p : PinsPage) : p.wanted.map (·.key) = p.told.items.map Item.identity := by
  simp [wanted]

theorem browse_laid (numbered : p.shelf.Numbered) (observed : p.browser.pager.observed = true)
    (told : p.told = p.browser.pager.state) {e : Browser.Event} (stays : e ≠ .close) :
    (p.browse e).1.Laid := by
  obtain ⟨observed', told'⟩ := Browser.step_told observed stays
  have keyed := Shelf.arrange_keyed numbered
    ({ p with
      browser := (p.browser.step e).1
      told := lastTold p.told (p.browser.step e).2.1 } : PinsPage).wanted
  rw [wanted_keys] at keyed
  exact ⟨keyed, observed', (congrArg (lastTold · _) told).trans told'⟩

include h

theorem browse_moves {e : Browser.Event} (stays : e ≠ .close) :
    (Page.pins p).Moves (.pins (p.browse e).1) :=
  .brings (browse_laid h.keyed.numbered h.observed h.told stays)
    (Shelf.arrange_follows_display h.keyed.numbered _)
    fun _ hr => Shelf.mem_of_mem_arrange_removals hr

theorem update_moves (session : Session) (settings : Settings) (m : Message) :
    (Page.pins p).Moves (.pins (p.update session settings m).1) := by
  cases m with
  | older => exact browse_moves h (by simp)
  | newer => exact browse_moves h (by simp)
  | card serial m => exact .stays ⟨h.keyed.act .., h.observed, h.told⟩ (p.shelf.act_stays ..)

theorem pageCame_moves (request : Nat) (reply : Except ServerError ItemPage) :
    (Page.pins p).Moves (.pins (p.pageCame request reply).1) := browse_moves h (by simp)

theorem changed_moves (now serial : Nat) (item : Item) (m : Mutation) (grace : Nat)
    (reply : Except ServerError Nat) :
    (Page.pins p).Moves (.pins (p.changed now serial item m grace reply).1) := by
  unfold changed
  split
  · exact .refl h
  · next received =>
    exact .stays ⟨h.keyed.receive received, h.observed, h.told⟩ (Shelf.receive_stays received)

theorem remove_fades (identity : Identity) :
    (Page.pins p).Fades (.pins (p.browse (.remove identity)).1) := by
  have laid := browse_laid h.keyed.numbered h.observed h.told
    (e := .remove identity) (by simp)
  refine ⟨laid, Shelf.arrange_stays ?_, fun _ hr => Shelf.mem_of_mem_arrange_removals hr⟩
  have items : (p.browse (.remove identity)).1.told.items =
      p.told.items.filter (·.identity ≠ identity) := by
    rw [laid.told, h.told]
    exact p.browser.step_remove_items identity
  rw [wanted_keys, h.keyed.keys]
  exact items ▸ (List.filter_sublist.map _).subperm

theorem elapse_settles (now : Nat) : (Page.pins p).Settles now (.pins (p.elapse now)) := by
  have first : (Page.pins p).Fades (.pins { p with shelf := (p.shelf.due now).2 }) :=
    ⟨⟨h.keyed.due now, h.observed, h.told⟩, .refl _, fun _ hr => Shelf.mem_of_mem_due_removals hr⟩
  refine first.settles (fun _ hr => Shelf.lt_of_mem_due_removals hr)
    (Page.foldl_fades .pins (fun p r hp => ?_) _ first.laid)
  split_ifs
  · exact remove_fades hp _
  · exact .refl hp

omit h in
theorem elapse_quiet {now : Nat} (quiet : ∀ r ∈ p.shelf.removals, now < r.deadline) :
    p.elapse now = p := by
  rw [elapse, Shelf.due_of_quiet quiet]
  rfl

end PinsPage

/-! ## A playlist -/

namespace PlaylistPage

variable {p : PlaylistPage} (h : p.Laid)
include h

theorem load_moves (text : String) : (Page.playlist p).Moves (.playlist (p.load text).1) := by
  refine .stays (load_laid h text) ?_
  simp only [Page.display, load_shelf]
  exact .refl _

theorem update_moves (session : Session) (settings : Settings) (m : Message) :
    (Page.playlist p).Moves (.playlist (p.update session settings m).1) := by
  have laid := update_laid h session settings m
  have act := fun serial => p.shelf.act_stays session settings.removalGraceMs.toNat
    (p.removal serial) serial
  cases m with
  | type text => exact .stays laid (.refl _)
  | submit => exact load_moves h p.field
  | card serial m =>
    cases m with
    | delete =>
      refine .stays laid ?_
      simp only [update, remove]
      split
      · exact .refl _
      · exact act serial .delete
    | play => exact .stays laid (act serial .play)
    | rate requested => exact .stays laid (act serial (.rate requested))
    | recommend => exact .stays laid (act serial .recommend)
    | pin => exact .stays laid (act serial .pin)

theorem playlistCame_moves (mbid : String) (reply : Except ServerError Playlist) :
    (Page.playlist p).Moves (.playlist (p.playlistCame mbid reply).1) := by
  cases reply with
  | ok playlist =>
    exact .brings (arranged_laid h.numbered) (Shelf.arrange_follows_display h.numbered _)
      fun _ hr => Shelf.mem_of_mem_arrange_removals hr
  | error e => exact .stays (h.congr rfl rfl rfl) (.refl _)

theorem changed_moves (now serial : Nat) (item : Item) (m : Mutation) (grace : Nat)
    (reply : Except ServerError Nat) :
    (Page.playlist p).Moves (.playlist (p.changed now serial item m grace reply).1) := by
  refine .stays (changed_laid h now serial item m grace reply) ?_
  unfold changed
  split
  · exact .refl _
  · next received => exact Shelf.receive_stays received

omit h in
theorem trackKeys_without_subset (p : PlaylistPage) (r : CardRemoval) :
    trackKeys (p.without r).tracks ⊆ trackKeys p.tracks := by
  unfold tracks
  cases hp : p.playlist with
  | none => simp [without, arranged, hp]
  | some l =>
    simp only [without, arranged, hp, Option.map_some, Option.elim_some, Playlist.removeAt]
    split_ifs with there
    · intro k hk
      obtain ⟨t, ht⟩ : ∃ t, l.tracks[r.place]? = some t := by
        cases ht : l.tracks[r.place]? with
        | none => simp [Playlist.hasAt, ht] at there
        | some t => exact ⟨t, rfl⟩
      exact ((mem_trackKeys_eraseIdx ht).1 hk).1
    · exact fun _ hk => hk

theorem without_fades (r : CardRemoval) :
    (Page.playlist p).Fades (.playlist (p.without r)) := by
  refine ⟨arranged_laid h.numbered, Shelf.arrange_stays ?_,
    fun _ hr => Shelf.mem_of_mem_arrange_removals hr⟩
  rw [wanted_keys, h.keyed]
  exact List.subperm_of_subset (nodup_trackKeys _) (p.trackKeys_without_subset r)

theorem elapse_settles (now : Nat) :
    (Page.playlist p).Settles now (.playlist (p.elapse now)) := by
  have first : (Page.playlist p).Fades (.playlist { p with shelf := (p.shelf.due now).2 }) :=
    ⟨h.congr rfl rfl rfl, .refl _, fun _ hr => Shelf.mem_of_mem_due_removals hr⟩
  refine first.settles (fun _ hr => Shelf.lt_of_mem_due_removals hr)
    (Page.foldl_fades .playlist (fun p r hp => ?_) _ first.laid)
  split_ifs
  · exact without_fades hp _
  · exact .refl hp

omit h in
theorem elapse_quiet {now : Nat} (quiet : ∀ r ∈ p.shelf.removals, now < r.deadline) :
    p.elapse now = p := by
  rw [elapse, Shelf.due_of_quiet quiet]
  rfl

end PlaylistPage

/-! ## Time -/

namespace App

variable {now : Nat} {p : Page}

/-- **What time does to a page**: no card comes, and what is due leaves. -/
theorem elapsePage_settles (h : p.Laid) (now : Nat) : p.Settles now (elapsePage now p) := by
  cases p with
  | listens p => exact ListensPage.elapse_settles h now
  | pins p => exact PinsPage.elapse_settles h now
  | playlist p => exact PlaylistPage.elapse_settles h now
  | nobody => exact ⟨.refl h, fun _ hr => absurd hr List.not_mem_nil⟩
  | settings f => exact ⟨.refl h, fun _ hr => absurd hr List.not_mem_nil⟩

theorem elapsePage_quiet (quiet : ∀ r ∈ p.removals, now < r.deadline) : elapsePage now p = p := by
  cases p with
  | listens p => exact congrArg Page.listens (ListensPage.elapse_quiet quiet)
  | pins p => exact congrArg Page.pins (PinsPage.elapse_quiet quiet)
  | playlist p => exact congrArg Page.playlist (PlaylistPage.elapse_quiet quiet)
  | nobody => rfl
  | settings f => rfl

end App

end ListenDeck
