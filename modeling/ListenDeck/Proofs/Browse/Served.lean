import ListenDeck.Proofs.Browse.Runs
import ListenDeck.Proofs.Browse.Windows

/-!
# Browsing a list that does not change

A browser whose server has one list. Every fetch gets an error or the window of the list it asked
for; replies come in any order.

* `Served.step`, `Served.run`: what the user, the address bar and the server do.
* `Served.Honest`: every waiting request is on record with the window that its ticket is for
  (`step_honest`).
* `Served.reply_eq`: what the server gives a waiting request.
-/

namespace ListenDeck

/-- A browser, and the windows its requests asked for: each request with the offset and the count of
its fetch, the latest first. -/
structure Served where
  browser : Browser
  asked : List (Nat × Nat × Nat) := []

namespace Served

/-- What can happen while a list is shown. -/
inductive Event where
  | goTo (target : Int) (record : Bool)
  | older
  | newer
  | follow
  | move (move : AddressBar.Move)
  | type (parameter : String)
  /-- The server gives a request the window it asked for. -/
  | answer (request : Nat)
  /-- The server gives a request an error. -/
  | refuse (request : Nat) (e : ServerError)

/-- The request whose fetch has its reply. -/
def Event.request? : Event → Option Nat
  | .answer request => some request
  | .refuse request _ => some request
  | _ => none

/-- The window that effects ask for. -/
def fetchOf? (effects : List PagerEffect) : Option (Nat × Nat) :=
  effects.findSome? fun
    | .fetch _ offset count => some (offset, count)
    | _ => none

/-- The browser after a step, with the fetch of the step on record. -/
def record (asked : List (Nat × Nat × Nat)) (outcome : Browser × Browser.Entry) : Served where
  browser := outcome.1
  asked :=
    match Browser.fetcher? outcome.2, fetchOf? outcome.2.1 with
    | some request, some w => (request, w) :: asked
    | _, _ => asked

/-- What a new browser makes of being opened. -/
def opening (config : PagerConfig) (observed : Bool) (bar : AddressBar) (typed : Option String) :
    Browser × Browser.Entry :=
  { Browser.fresh config observed bar with typed }.step .open

/-- A new browser that was just opened. -/
def opened (config : PagerConfig) (observed : Bool) (bar : AddressBar) (typed : Option String) :
    Served :=
  record [] (opening config observed bar typed)

section Step
variable (list : List Item)

/-- The window that a request asked for. -/
def reply (s : Served) (request : Nat) : ItemPage :=
  (s.asked.lookup request).elim {} fun w =>
    { items := window list w.1 w.2, total := list.length }

/-- What an event means to the browser. -/
def meaning (s : Served) : Event → Browser.Event
  | .goTo target record => .goTo target record
  | .older => .older
  | .newer => .newer
  | .follow => .follow
  | .move m => .move m
  | .type parameter => .type parameter
  | .answer request => .reply request (.ok (s.reply list request))
  | .refuse request e => .reply request (.error e)

/-- What the browser makes of an event. -/
def act (s : Served) (e : Event) : Browser × Browser.Entry := s.browser.step (s.meaning list e)

/-- The browser and the record after an event. -/
def step (s : Served) (e : Event) : Served := record s.asked (s.act list e)

/-- The browser and the record after a list of events. -/
def run (s : Served) (es : List Event) : Served := es.foldl (step list) s

end Step

/-! ## The record -/

/-- **Every waiting request is on record** with the window that its ticket is for. -/
structure Honest (config : PagerConfig) (s : Served) : Prop where
  configured : s.browser.pager.config = config
  mounted : s.browser.pager.mounted = true
  tracked : ∃ latest, Browser.Tracked s.browser latest
  asked : ∀ w ∈ s.browser.waiting,
    s.asked.lookup w.1 = some (s.browser.pager.startOf w.2.aim, config.pageSize)

theorem fetchOf?_append {es : List PagerEffect} (h : Pager.Unfetched es) (user : String)
    (offset count : Nat) : fetchOf? (es ++ [.fetch user offset count]) = some (offset, count) := by
  have hnone : fetchOf? es = none := by
    unfold fetchOf?
    rw [List.findSome?_eq_none_iff]
    intro e he
    cases e with
    | fetch user offset count => exact absurd he (h user offset count)
    | _ => rfl
  unfold fetchOf? at hnone ⊢
  rw [List.findSome?_append, hnone]
  rfl

theorem startOf_congr {p q : Pager} (h : p.config = q.config) (aim : Aim) :
    p.startOf aim = q.startOf aim := by
  unfold Pager.startOf Pager.offsetOf
  rw [h]

section Honest
variable {list : List Item} {config : PagerConfig} {s : Served}

theorem record_honest {b : Browser} {asked : List (Nat × Nat × Nat)}
    (h : Honest config ⟨b, asked⟩) {e : Browser.Event} (he : e ≠ .close) :
    Honest config (record asked (b.step e)) := by
  obtain ⟨latest, ht⟩ := h.tracked
  have hc := Browser.step_config b e
  refine ⟨hc.trans h.configured, ?_, ⟨_, Browser.step_tracked ht e⟩, fun w hm => ?_⟩
  · exact (Browser.step_mounted b e).mpr ⟨h.mounted, he⟩
  · show List.lookup w.1 (record asked (b.step e)).asked =
      some ((b.step e).1.pager.startOf w.2.aim, config.pageSize)
    rw [startOf_congr hc]
    replace hm : w ∈ (b.step e).1.waiting := hm
    have hconfig : b.pager.config = config := h.configured
    rcases Browser.step_stepped ht.made e with
      ⟨-, hw, -, hu⟩ | ⟨r, aim, rest, es, hs, hn, -, hw, -, -, hu, heq⟩
    · have hr : (record asked (b.step e)).asked = asked := by
        simp only [record, Browser.fetcher?_of_unfetched hu]
      rw [hr]
      exact h.asked w (hw.subset hm)
    · have hr : (record asked (b.step e)).asked =
          (r, b.pager.startOf aim, config.pageSize) :: asked := by
        simp only [record, heq, Browser.fetcher?_waiting, fetchOf?_append hu, hconfig]
      rw [hr, List.lookup_cons]
      rw [hw] at hm
      rcases List.mem_append.mp hm with hm | hm
      · have hne : (w.1 == r) = false := by simpa using hn w hm
        rw [hne]
        exact h.asked w (hs.subset hm)
      · rw [List.mem_singleton] at hm
        subst hm
        simp

theorem opened_honest (config : PagerConfig) (observed : Bool) (bar : AddressBar)
    (typed : Option String) : Honest config (opened config observed bar typed) := by
  refine record_honest (b := { Browser.fresh config observed bar with typed }) ?_ (by simp)
  exact ⟨rfl, rfl, ⟨none, Browser.tracked_of_waiting_nil rfl⟩, fun w hm =>
    (List.not_mem_nil hm).elim⟩

theorem meaning_ne_close (s : Served) (e : Event) : s.meaning list e ≠ .close := by
  cases e <;> simp [meaning]

theorem step_honest (h : Honest config s) (e : Event) : Honest config (s.step list e) :=
  record_honest h (meaning_ne_close s e)

theorem run_honest (h : Honest config s) (es : List Event) : Honest config (s.run list es) := by
  induction es generalizing s with
  | nil => exact h
  | cons e es ih => exact ih (step_honest h e)

theorem reply_eq (h : Honest config s) {r : Nat} {ticket : Ticket}
    (hw : s.browser.waiting.lookup r = some ticket) :
    s.reply list r = { items := window list (s.browser.pager.startOf ticket.aim) config.pageSize
                       total := list.length } := by
  unfold reply
  rw [h.asked _ (Browser.mem_of_lookup hw)]
  rfl

end Honest

end Served

end ListenDeck
