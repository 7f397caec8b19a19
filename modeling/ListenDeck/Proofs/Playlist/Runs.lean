import ListenDeck.Proofs.Cards.Takeover
import ListenDeck.Proofs.Playlist.Keys
import ListenDeck.Proofs.Playlist.Turns

/-!
# Runs of a playlist page

Everything that can happen to the page: presses in any session and with any settings, replies
whether or not they were asked for, and time.

* `PlaylistPage.step`, `PlaylistPage.run`: an event, and a list of them.
* `PlaylistPage.Laid`: the cards show the tracks in their order, under the keys of the tracks and
  with numbers of their own. Every run of a page keeps it so (`run_laid`).
* `keys_never_collide`: what the keys of tracks and cards are, and that no two are the same.
-/

namespace ListenDeck.PlaylistPage

/-- Something that happens to the page. -/
inductive Event where
  | act (session : Session) (settings : Settings) (message : Message)
  /-- A playlist that was asked for has come, or not. -/
  | came (mbid : String) (reply : Except ServerError Playlist)
  /-- A change to a card's track was answered at a time. -/
  | answered (now serial : Nat) (item : Item) (mutation : Mutation) (grace : Nat)
      (reply : Except ServerError Nat)
  /-- It is that late. -/
  | elapse (now : Nat)

/-- What an event makes of the page. -/
def step (p : PlaylistPage) : Event → PlaylistPage
  | .act session settings m => (p.update session settings m).1
  | .came mbid reply => (p.playlistCame mbid reply).1
  | .answered now serial item m grace reply => (p.changed now serial item m grace reply).1
  | .elapse now => p.elapse now

/-- What a list of events makes of the page. -/
def run (p : PlaylistPage) (es : List Event) : PlaylistPage := es.foldl step p

/-- **The cards are laid out**: they show the tracks in their order, under the keys of the tracks
and with numbers of their own. -/
structure Laid (p : PlaylistPage) : Prop where
  inOrder : p.InOrder
  keyed : p.shelf.cards.map (·.key) = trackKeys p.tracks
  numbered : p.shelf.Numbered

section Laid
variable {p q : PlaylistPage}

theorem Laid.nodup (h : p.Laid) : (p.shelf.cards.map (·.key)).Nodup := by
  rw [h.keyed]
  exact nodup_trackKeys p.tracks

theorem wanted_keys (p : PlaylistPage) : p.wanted.map (·.key) = trackKeys p.tracks := by
  have hlen : (trackKeys p.tracks).length = p.tracks.length := trackKeysFrom_length [] p.tracks
  unfold wanted
  rw [List.map_zipWith]
  refine List.ext_getElem (by simp [hlen]) fun i h₁ h₂ => ?_
  simp

theorem arranged_laid (h : p.shelf.Numbered) : p.arranged.Laid where
  inOrder := p.arranged_inOrder
  keyed := (Shelf.arrange_keys p.shelf p.wanted).trans p.wanted_keys
  numbered := Shelf.arrange_numbered h p.wanted

theorem Laid.congr (h : p.Laid) (ht : q.tracks = p.tracks)
    (hc : q.shelf.cards.map (fun c => (c.key, c.serial, c.shown)) =
      p.shelf.cards.map fun c => (c.key, c.serial, c.shown))
    (hm : q.shelf.mounted = p.shelf.mounted) : q.Laid := by
  have hmap : ∀ {α : Type} (f : String × Nat × Item → α),
      q.shelf.cards.map (fun c => f (c.key, c.serial, c.shown)) =
        p.shelf.cards.map fun c => f (c.key, c.serial, c.shown) := by
    intro α f
    have := congrArg (List.map f) hc
    rwa [List.map_map, List.map_map] at this
  refine ⟨?_, ?_, ?_⟩
  · rw [InOrder, hmap fun k => k.2.2, ht]
    exact h.inOrder
  · rw [hmap fun k => k.1, ht]
    exact h.keyed
  · exact Shelf.numbered_of_serials h.numbered (hmap fun k => k.2.1) hm

theorem load_laid (h : p.Laid) (text : String) : (p.load text).1.Laid := by
  rcases p.load_cases text with heq | ⟨-, heq⟩ <;> rw [heq]
  · exact h
  · exact h.congr rfl rfl rfl

theorem start_laid (settings : Settings) : (start settings).1.Laid := by
  have hempty : ({ field := settings.lastPlaylist.getD "" } : PlaylistPage).Laid :=
    ⟨rfl, rfl, List.nodup_nil, fun _ h => absurd h List.not_mem_nil⟩
  exact load_laid hempty _

theorem act_laid (h : p.Laid) (session : Session) (grace : Nat) (removal : Action) (serial : Nat)
    (m : CardMessage) {locked : Bool} :
    ({ p with
      shelf := (p.shelf.act session grace removal serial m).1, locked } : PlaylistPage).Laid :=
  h.congr rfl (p.shelf.act_map (fun _ _ => rfl) session grace removal serial m)
    (p.shelf.act_rest session grace removal serial m).1

theorem update_laid (h : p.Laid) (session : Session) (settings : Settings) (m : Message) :
    (p.update session settings m).1.Laid := by
  have hact := act_laid h session settings.removalGraceMs.toNat
  cases m with
  | type text => exact h.congr rfl rfl rfl
  | submit => exact load_laid h p.field
  | card serial m =>
    cases m with
    | delete =>
      simp only [update, remove]
      split
      · exact h
      · exact hact (p.removal serial) serial .delete
    | play => exact hact (p.removal serial) serial .play
    | rate requested => exact hact (p.removal serial) serial (.rate requested)
    | recommend => exact hact (p.removal serial) serial .recommend
    | pin => exact hact (p.removal serial) serial .pin

theorem changed_laid (h : p.Laid) (now serial : Nat) (item : Item) (m : Mutation) (grace : Nat)
    (reply : Except ServerError Nat) : (p.changed now serial item m grace reply).1.Laid := by
  unfold changed Shelf.receive?
  split_ifs
  · exact h.congr rfl (p.shelf.settle_map (fun _ _ => rfl) (fun _ => rfl) serial m.place _ _)
      (p.shelf.settle_mounted serial m.place _ _)
  · exact h

theorem elapse_laid (h : p.Laid) (now : Nat) : (p.elapse now).Laid := by
  have hfold : ∀ (due : List CardRemoval) (q : PlaylistPage), q.Laid →
      (due.foldl (fun p r => if p.shelf.isMounted r.card then p.without r else p) q).Laid := by
    intro due
    induction due with
    | nil => exact fun q hq => hq
    | cons r due ih =>
      intro q hq
      rw [List.foldl_cons]
      refine ih _ ?_
      split
      · exact arranged_laid hq.numbered
      · exact hq
  exact hfold _ _ (h.congr rfl rfl rfl)

/-- **Every event leaves the cards laid out.** -/
theorem step_laid (h : p.Laid) (e : Event) : (p.step e).Laid := by
  cases e with
  | act session settings m => exact update_laid h session settings m
  | came mbid reply =>
    cases reply with
    | ok playlist => exact arranged_laid h.numbered
    | error e => exact h.congr rfl rfl rfl
  | answered now serial item m grace reply => exact changed_laid h now serial item m grace reply
  | elapse now => exact elapse_laid h now

theorem run_laid (h : p.Laid) (es : List Event) : (p.run es).Laid := by
  induction es generalizing p with
  | nil => exact h
  | cons e es ih => exact ih (step_laid h e)

end Laid

/-- **Keys never collide.** The tracks of a list have a key each, and no two the same one, whatever
their ids are. The key of a track is its id with the number of tracks up to it that have the id, so
that two tracks, of one list or of two, have the same key if and only if they have the same id and
come after equally many tracks of it. These are the keys of a page's cards, and no two cards of a
page ever have the same one. -/
theorem keys_never_collide :
    (∀ tracks, (trackKeys tracks).length = tracks.length ∧ (trackKeys tracks).Nodup) ∧
    (∀ (tracks : List PlaylistTrack) i t, tracks[i]? = some t → (trackKeys tracks)[i]? =
      some (t.id ++ "#" ++ Text.decimal (occurrences t.id (tracks.take i) + 1))) ∧
    (∀ (tracks others : List PlaylistTrack) i j t u, tracks[i]? = some t → others[j]? = some u →
      ((trackKeys tracks)[i]? = (trackKeys others)[j]? ↔
        t.id = u.id ∧ occurrences t.id (tracks.take i) = occurrences u.id (others.take j))) ∧
    (∀ p : PlaylistPage, p.wanted.map (·.key) = trackKeys p.tracks) ∧
    ∀ settings es, (((start settings).1.run es).shelf.cards.map (·.key)).Nodup := by
  refine ⟨fun tracks => ⟨trackKeysFrom_length [] tracks, nodup_trackKeys tracks⟩,
    fun tracks i t ht => key_of_earlier ht, fun tracks others i j t u ht hu => ?_, wanted_keys,
    fun settings es => (run_laid (start_laid settings) es).nodup⟩
  rw [key_of_earlier ht, key_of_earlier hu, Option.some.injEq, trackKey_inj,
    Nat.add_right_cancel_iff]

end ListenDeck.PlaylistPage
