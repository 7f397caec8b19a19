import ListenDeck.Pages.Playlist
import Mathlib.Logic.Function.Basic

/-!
# A playlist page and its server

A playlist page together with a server that nobody else uses. The server answers a request for a
playlist with its copy at that moment; it carries a removal out by taking the track at the place
from its copy, or answers with an error and changes nothing. Answers reach the page in any order,
and time passes.

* `Curation.step`, `Curation.run`: what the user, the server and the clock do.
* `Order.Hits`: the track at the place of a removal is the recording of the card.
* `Curation.Apart`: no playlist is opened while a removal is under way, and no track is removed
  while a playlist is on its way.
-/

namespace ListenDeck

/-- The playlist without the track at a place. -/
def Playlist.erase (l : Playlist) (place : Nat) : Playlist :=
  { l with tracks := l.tracks.eraseIdx place }

/-- A request for a playlist, and what the server answered. -/
structure Fetch where
  number : Nat
  mbid : String
  answer : Option (Except ServerError Playlist) := none

/-- A call about the track of a card, and what the server answered. -/
structure Order where
  number : Nat
  card : Nat
  item : Item
  mutation : Mutation
  grace : Nat
  answer : Option (Except ServerError Nat) := none

/-- **The track at the place of a removal is the recording of the card**, in the server's copy. -/
def Order.Hits (lists : String → Playlist) (o : Order) : Prop :=
  ∃ token mbid place, o.mutation = .removeTrack token mbid place ∧
    (lists mbid).hasAt place o.item.identity = true

instance (lists : String → Playlist) (o : Order) : Decidable (o.Hits lists) :=
  match hm : o.mutation with
  | .removeTrack token mbid place =>
    decidable_of_iff ((lists mbid).hasAt place o.item.identity = true) <| by
      refine ⟨fun h => ⟨token, mbid, place, hm, h⟩, ?_⟩
      rintro ⟨token', mbid', place', hm', h⟩
      rw [hm] at hm'
      obtain ⟨-, rfl, rfl⟩ := Mutation.removeTrack.inj hm'
      exact h
  | .submitFeedback .. | .deleteListen .. | .deletePin .. | .recommend .. | .pin .. =>
    isFalse (by simp [Order.Hits, hm])

/-- A playlist page and its server. -/
structure Curation where
  page : PlaylistPage
  /-- The playlists of the server, by their ids. -/
  lists : String → Playlist
  /-- The requests for playlists that the page has no answer to. -/
  fetches : List Fetch := []
  /-- The calls about tracks that the page has no answer to. -/
  orders : List Order := []
  /-- The number of requests so far. -/
  requests : Nat := 0
  now : Nat := 0

namespace Curation

/-- What the user does: writes into the field, presses Open or the removal button of a card. -/
inductive Button where
  | type (text : String)
  | «open»
  | remove (serial : Nat)
  deriving Repr

/-- What it means to the page. -/
def Button.message : Button → PlaylistPage.Message
  | .type text => .type text
  | .open => .submit
  | .remove serial => .card serial .delete

/-- What can happen. -/
inductive Event where
  | press (session : Session) (settings : Settings) (button : Button)
  /-- The server answers a request for a playlist with its copy. -/
  | give (number : Nat)
  /-- The server removes a track and answers that it did. -/
  | execute (number : Nat)
  /-- The server answers a request with an error. -/
  | refuse (number : Nat) (e : ServerError)
  /-- An answer reaches the page. -/
  | deliver (number : Nat)
  | pass (ms : Nat)

/-- The requests after something that the page has done for it. -/
def ask (s : Curation) : PageEffect → Curation
  | .ask (.playlist mbid) =>
    { s with fetches := s.fetches ++ [{ number := s.requests, mbid }], requests := s.requests + 1 }
  | .ask (.change card item mutation grace) =>
    { s with
      orders := s.orders ++ [{ number := s.requests, card, item, mutation, grace }]
      requests := s.requests + 1 }
  | _ => s

/-- After something happened to the page. -/
def turn (s : Curation) (t : PageTurn PlaylistPage) : Curation :=
  t.2.foldl ask { s with page := t.1 }

/-- The page when it is opened. -/
def start (settings : Settings) (lists : String → Playlist) : Curation :=
  ({ page := {}, lists } : Curation).turn (PlaylistPage.start settings)

/-- The playlists without the track at a place of one of them. -/
def removeFrom (lists : String → Playlist) (mbid : String) (place : Nat) : String → Playlist :=
  Function.update lists mbid ((lists mbid).erase place)

/-- The server answers a request for a playlist. -/
def give (s : Curation) (number : Nat) (answer : Fetch → Except ServerError Playlist) : Curation :=
  { s with fetches := s.fetches.map fun f =>
      if f.number = number ∧ f.answer = none then { f with answer := some (answer f) } else f }

/-- The server answers a call about a track. -/
def settle (s : Curation) (number : Nat) (answer : Except ServerError Nat) : Curation :=
  { s with orders := s.orders.map fun o =>
      if o.number = number ∧ o.answer = none then { o with answer := some answer } else o }

/-- The server carries a removal out, if there is a track at the place. -/
def execute (s : Curation) (number : Nat) : Curation :=
  match s.orders.find? fun o => o.number = number ∧ o.answer = none with
  | some { mutation := .removeTrack _ mbid place, .. } =>
    if place < (s.lists mbid).tracks.length then
      { s.settle number (.ok statusOk) with lists := removeFrom s.lists mbid place }
    else s
  | _ => s

/-- The answer to a request for a playlist reaches the page. -/
def deliverList (s : Curation) (number : Nat) : Curation :=
  match s.fetches.find? (·.number = number) with
  | some { mbid, answer := some answer, .. } =>
    { s with fetches := s.fetches.filter (·.number ≠ number) }.turn
      (s.page.playlistCame mbid answer)
  | _ => s

/-- The answer to a call about a track reaches the page. -/
def deliverChange (s : Curation) (number : Nat) : Curation :=
  match s.orders.find? (·.number = number) with
  | some { card, item, mutation, grace, answer := some answer, .. } =>
    { s with orders := s.orders.filter (·.number ≠ number) }.turn
      (s.page.changed s.now card item mutation grace answer)
  | _ => s

/-- What an event leads to. -/
def step (s : Curation) : Event → Curation
  | .press session settings button => s.turn (s.page.update session settings button.message)
  | .give number => s.give number fun f => .ok (s.lists f.mbid)
  | .execute number => s.execute number
  | .refuse number e => (s.give number fun _ => .error e).settle number (.error e)
  | .deliver number => (s.deliverList number).deliverChange number
  | .pass ms => { s with now := s.now + ms, page := s.page.elapse (s.now + ms) }

/-- What a list of events leads to. -/
def run (s : Curation) (es : List Event) : Curation := es.foldl step s

/-- A removal is under way: it was asked for, or waits for its grace. -/
def Removing (s : Curation) : Prop := s.orders ≠ [] ∨ s.page.shelf.removals ≠ []

/-- A playlist is on its way. -/
def Loading (s : Curation) : Prop := s.fetches ≠ []

/-- The page asks for a playlist. -/
def asksList : PageEffect → Bool
  | .ask (.playlist _) => true
  | _ => false

/-- The page asks for a change to the track of a card. -/
def asksChange : PageEffect → Bool
  | .ask (.change ..) => true
  | _ => false

/-- **A load and a removal come together**: a playlist is asked for while a removal is under way, or
a removal while a playlist is on its way. -/
def Overlaps (s : Curation) : Event → Prop
  | .press session settings button =>
    (s.page.update session settings button.message).2.any asksList ∧ s.Removing ∨
      (s.page.update session settings button.message).2.any asksChange ∧ s.Loading
  | _ => False

/-- **Loads and removals stay apart** in a run. -/
def Apart : Curation → List Event → Prop
  | _, [] => True
  | s, e :: es => ¬ s.Overlaps e ∧ Apart (s.step e) es

instance (s : Curation) : Decidable s.Removing :=
  inferInstanceAs (Decidable (s.orders ≠ [] ∨ s.page.shelf.removals ≠ []))

instance (s : Curation) : Decidable s.Loading := inferInstanceAs (Decidable (s.fetches ≠ []))

instance (s : Curation) : (e : Event) → Decidable (s.Overlaps e)
  | .press .. => inferInstanceAs (Decidable (_ ∧ s.Removing ∨ _ ∧ s.Loading))
  | .give _ | .execute _ | .refuse .. | .deliver _ | .pass _ => isFalse id

instance decidableApart : (s : Curation) → (es : List Event) → Decidable (s.Apart es)
  | _, [] => isTrue trivial
  | s, e :: es =>
    have := decidableApart (s.step e) es
    inferInstanceAs (Decidable (¬ s.Overlaps e ∧ (s.step e).Apart es))

/-! ## What the server does -/

theorem removeFrom_self (lists : String → Playlist) (mbid : String) (place : Nat) :
    removeFrom lists mbid place mbid = (lists mbid).erase place := Function.update_self _ _ _

theorem removeFrom_of_ne (lists : String → Playlist) {mbid other : String} (place : Nat)
    (h : other ≠ mbid) : removeFrom lists mbid place other = lists other :=
  Function.update_of_ne h _ _

section Server
variable {s : Curation} {number : Nat}

theorem execute_eq {place : Nat} {o : Order} {token mbid : String}
    (hfind : s.orders.find? (fun o => o.number = number ∧ o.answer = none) = some o)
    (hm : o.mutation = .removeTrack token mbid place)
    (hlt : place < (s.lists mbid).tracks.length) :
    s.execute number =
      { s.settle number (.ok statusOk) with lists := removeFrom s.lists mbid place } := by
  obtain ⟨k, card, item, mutation, grace, answer⟩ := o
  obtain rfl : mutation = .removeTrack token mbid place := hm
  unfold execute
  rw [hfind]
  exact if_pos hlt

theorem execute_of_none
    (hfind : s.orders.find? (fun o => o.number = number ∧ o.answer = none) = none) :
    s.execute number = s := by
  unfold execute
  rw [hfind]

theorem deliverList_eq {f : Fetch} {answer : Except ServerError Playlist}
    (hfind : s.fetches.find? (·.number = number) = some f) (ha : f.answer = some answer) :
    s.deliverList number = { s with fetches := s.fetches.filter (·.number ≠ number) }.turn
      (s.page.playlistCame f.mbid answer) := by
  obtain ⟨k, mbid, reply⟩ := f
  obtain rfl : reply = some answer := ha
  unfold deliverList
  rw [hfind]

theorem deliverList_of_ne (h : ∀ f ∈ s.fetches, f.number ≠ number) :
    s.deliverList number = s := by
  have hfind : s.fetches.find? (·.number = number) = none := by simpa using h
  unfold deliverList
  rw [hfind]

theorem deliverList_cases (s : Curation) (number : Nat) : s.deliverList number = s ∨
    ∃ f ∈ s.fetches, ∃ answer, f.number = number ∧ f.answer = some answer ∧
      s.deliverList number = { s with fetches := s.fetches.filter (·.number ≠ number) }.turn
        (s.page.playlistCame f.mbid answer) := by
  unfold deliverList
  split
  case h_1 hfind =>
    exact Or.inr ⟨_, List.mem_of_find?_eq_some hfind, _, by simpa using List.find?_some hfind, rfl,
      rfl⟩
  case h_2 => exact Or.inl rfl

theorem deliverChange_eq {o : Order} {answer : Except ServerError Nat}
    (hfind : s.orders.find? (·.number = number) = some o) (ha : o.answer = some answer) :
    s.deliverChange number = { s with orders := s.orders.filter (·.number ≠ number) }.turn
      (s.page.changed s.now o.card o.item o.mutation o.grace answer) := by
  obtain ⟨k, card, item, mutation, grace, reply⟩ := o
  obtain rfl : reply = some answer := ha
  unfold deliverChange
  rw [hfind]

theorem deliverChange_of_ne (h : ∀ o ∈ s.orders, o.number ≠ number) :
    s.deliverChange number = s := by
  have hfind : s.orders.find? (·.number = number) = none := by simpa using h
  unfold deliverChange
  rw [hfind]

theorem deliverChange_cases (s : Curation) (number : Nat) : s.deliverChange number = s ∨
    ∃ o ∈ s.orders, ∃ answer, o.number = number ∧ o.answer = some answer ∧
      s.deliverChange number = { s with orders := s.orders.filter (·.number ≠ number) }.turn
        (s.page.changed s.now o.card o.item o.mutation o.grace answer) := by
  unfold deliverChange
  split
  case h_1 hfind =>
    exact Or.inr ⟨_, List.mem_of_find?_eq_some hfind, _, by simpa using List.find?_some hfind, rfl,
      rfl⟩
  case h_2 => exact Or.inl rfl

end Server

end Curation

end ListenDeck
